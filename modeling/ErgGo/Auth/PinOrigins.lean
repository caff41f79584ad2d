import ErgGo.Auth.Verification

/-!
# Which PINs verify an address

Calls that register accounts, verify addresses and reset passwords run side by side, and the store may fail
any of their statements. A password changes only for a live PIN that was sent to its account to that end, and
a PIN that is sent again does not activate an account.
-/

namespace ErgGo.Auth.Verification
open Go Documents Concurrent Program Lms Postgres

section Origins

variable [Library]

/-- The address and the purpose of the PIN that a call sends. -/
def Operation.sends : Operation → Option (String × String)
  | .register req => some (normalizeEmail req.email, "register")
  | .forgotPassword req => some (normalizeEmail req.email, "forgot_password")
  | .resendPIN req => some (normalizeEmail req.email, resentPurpose req.purpose)
  | .verifyPIN _ => none
  | .resetPassword _ => none

/-- The row is this one, and has not gone from used to unused. -/
def Later (old pin : AuthPin) : Prop :=
  pin = { old with usedAt := pin.usedAt } ∧ (pin.usedAt = none → old.usedAt = none)

/-- The row that a PIN is stored as. -/
def StoredAs (new pin : AuthPin) : Prop :=
  varchar 255 new.email = some pin.email ∧ pin.code = new.code ∧ pin.purpose = new.purpose ∧
    pin.expiresAt = new.expiresAt

/-- The thread has read this time from the clock. -/
def ReadsClock (h : List VerificationEvent) (i : ℕ) (now : Time) : Prop :=
  ∃ e ∈ h, e.thread = i ∧ e.req = .pin .now ∧ e.env.1.now = now

variable [AccountLibrary] (calls : List Operation)

/-- A call that sends a PIN stores it with its own address and purpose, for 15 minutes; to register it has
created the account. -/
structure Sent (h : List VerificationEvent) (i : ℕ) (pin : AuthPin) : Prop where
  call : ∃ op, calls[i]? = some op ∧ op.sends = some (pin.email, pin.purpose)
  lifetime : ∃ now, ReadsClock h i now ∧ pin.expiresAt = now + Repo.pinTTL
  created : pin.purpose = "register" → ∃ e ∈ h, e.thread = i ∧ ∃ user roles id,
    e.req = .createUser user roles ∧ normalizeEmail user.email = pin.email ∧
      (createUser e.env.1.toAccountEnv user roles e.before).1 = .ok id

/-- The thread has read the clock, has looked for an unused PIN that was live at that time, and has found this
row. -/
def Presents (h : List VerificationEvent) (i : ℕ) (email code purpose : String) (pin : AuthPin) : Prop :=
  ∃ g e g', h = g ++ e :: g' ∧ e.thread = i ∧ ∃ now, ReadsClock g i now ∧
    e.req = .pin (.firstUnused email code purpose now) ∧ firstUnusedPin e.before email code purpose now = some pin

/-- The row is there from the start, or a request of a call that sends PINs has stored it. -/
def Stems (db : Database) (h : List VerificationEvent) (pin : AuthPin) : Prop :=
  (∃ old ∈ db.pins.docs, Later old pin) ∨ ∃ g e g', h = g ++ e :: g' ∧ ∃ replaced new stored,
    e.req = .replacePins replaced new ∧ Sent calls g e.thread new ∧ stored ∈ (e.after exec).pins.docs ∧
      StoredAs new stored ∧ Later stored pin

/-- The thread has presented the code of a PIN of this address and purpose: the row it has found was in the table,
unused and live, and had got there before. -/
structure Accepts (db : Database) (h : List VerificationEvent) (i : ℕ) (email code purpose : String) (pin : AuthPin) :
    Prop where
  found : ∃ g e g', h = g ++ e :: g' ∧ e.thread = i ∧ pin ∈ e.before.pins.docs ∧ Stems calls db g pin ∧
    ∃ now, ReadsClock g i now ∧ e.req = .pin (.firstUnused email code purpose now) ∧ now < pin.expiresAt
  unused : pin.usedAt = none
  email : pin.email = normalizeEmail email
  code : pin.code = code
  purpose : pin.purpose = purpose

/-- What a request presupposes. -/
def Warranted (h : List VerificationEvent) (e : VerificationEvent) : Prop :=
  match e.req with
  | .replacePins _ pin => Sent calls h e.thread pin
  | .updateUserStatus email _ _ => ∃ req, calls[e.thread]? = some (.verifyPIN req) ∧ req.purpose = "register" ∧
      req.email = email ∧ ∃ pin, Presents h e.thread email req.code "register" pin
  | .updatePasswordHash email _ _ => ∃ req, calls[e.thread]? = some (.resetPassword req) ∧ req.email = email ∧
      ∃ pin, Presents h e.thread email req.code "forgot_password" pin
  | _ => True

/-! ## The programs -/

section Safe

attribute [local irreducible] firstUnusedPin matchesPin createUser

variable {calls} {i : ℕ} {w : World (Env × Fault) Request Database}

abbrev warranted (calls : List Operation) : Protocol (Env × Fault) Request Database :=
  provenance (fun _ => True) (Warranted calls)

/-- A request that presupposes nothing. -/
lemma safe_call {q : Request} {post : Result q → World (Env × Fault) Request Database → Prop}
    (hq : ∀ h env db, w.2 <+: h → Warranted calls h ⟨i, env, q, db⟩)
    (hpost : ∀ h env db a, w.2 <+: h → (exec env q db).1 = .ok a → post a ((exec env q db).2, h ++ [⟨i, env, q, db⟩])) :
    (warranted calls).Safe exec i (OnSuccess post) (call q).run w := by
  refine safe_send (fun _ _ _ => trivial) (fun h env db hle _ => hq h env db hle) fun h env db hle _ => ?_
  generalize hreply : (exec env q db).1 = reply
  cases reply with
  | error e => trivial
  | ok a => exact hpost h env db a hle hreply

lemma safe_wrapping {α : Type} {x : Call α} {post : α → World (Env × Fault) Request Database → Prop}
    (context : String) (hx : (warranted calls).Safe exec i (OnSuccess post) x.run w) :
    (warranted calls).Safe exec i (OnSuccess post) (wrapping context x).run w :=
  hx.run_tryCatch fun _ _ _ => trivial

/-- A caller that goes on in both cases. -/
lemma safe_outcome_bind {α β : Type} {x : Call α} {f : Except VerificationError α → Call β}
    {mid : α → World (Env × Fault) Request Database → Prop} {post : β → World (Env × Fault) Request Database → Prop}
    (hx : (warranted calls).Safe exec i (OnSuccess mid) x.run w)
    (hok : ∀ a w', w.2 <+: w'.2 → mid a w' → (warranted calls).Safe exec i (OnSuccess post) (f (.ok a)).run w')
    (herror : ∀ e w', w.2 <+: w'.2 → (warranted calls).Safe exec i (OnSuccess post) (f (.error e)).run w') :
    (warranted calls).Safe exec i (OnSuccess post) (outcome x >>= f).run w := by
  unfold outcome
  rw [run_lift_bind]
  refine hx.bind fun r w' hle hr => ?_
  cases r with
  | ok a => exact hok a w' hle hr
  | error e => exact herror e w' hle

abbrev anything {α : Type} : α → World (Env × Fault) Request Database → Prop := fun _ _ => True

lemma safe_findUserByEmail (email tenantID : String) :
    (warranted calls).Safe exec i (OnSuccess anything) (Repo.findUserByEmail email tenantID).run w := by
  have hcall : (warranted calls).Safe exec i (OnSuccess anything)
      (call (.findUserRecordByEmail email tenantID)).run w :=
    safe_call (fun _ _ _ _ => trivial) fun _ _ _ _ _ _ => trivial
  refine hcall.run_tryCatch fun e w' _ => ?_
  cases e <;> trivial

lemma safe_generatePIN (length : ℕ) :
    (warranted calls).Safe exec i (OnSuccess anything) (generatePIN length).run w := by
  have hdigit : ∀ w, (warranted calls).Safe exec i (OnSuccess anything)
      (wrapping "generatePIN" (call .randomDigit)).run w := fun w =>
    safe_wrapping _ (safe_call (fun _ _ _ _ => trivial) fun _ _ _ _ _ _ => trivial)
  have hdigits : ∀ (l : List Unit) w, (warranted calls).Safe exec i (OnSuccess anything)
      (l.mapM fun _ => wrapping "generatePIN" (call .randomDigit)).run w := by
    intro l
    induction l with
    | nil => exact fun w => trivial
    | cons _ l ih =>
      intro w
      rw [List.mapM_cons]
      refine (hdigit w).run_bind fun digit w' _ _ => ?_
      exact (ih w').run_bind fun digits w'' _ _ => trivial
  exact (hdigits _ w).run_bind fun digits w' _ _ => trivial

omit [Library] [AccountLibrary] in
lemma ReadsClock.mono {h h' : List VerificationEvent} {now : Time} (hread : ReadsClock h i now) (hle : h <+: h') :
    ReadsClock h' i now := by
  obtain ⟨e, he, hrest⟩ := hread
  exact ⟨e, hle.subset he, hrest⟩

omit [AccountLibrary] in
lemma Presents.mono {h h' : List VerificationEvent} {email code purpose : String} {pin : AuthPin}
    (hpresents : Presents h i email code purpose pin) (hle : h <+: h') : Presents h' i email code purpose pin := by
  obtain ⟨g, e, g', rfl, hfound⟩ := hpresents
  obtain ⟨rest, rfl⟩ := hle
  exact ⟨g, e, g' ++ rest, by simp, hfound⟩

lemma carryOut_of_exec {env : Env × Fault} {q : Request} {db : Database} {r : Result q}
    (h : (exec env q db).1 = .ok r) : (carryOut env.1 q db).1 = .ok r := by
  unfold exec at h
  split at h
  · exact (withFaults_ok h).1
  · exact h

lemma safe_now : (warranted calls).Safe exec i (OnSuccess fun now w' => ReadsClock w'.2 i now)
    (call (.pin .now)).run w := by
  refine safe_call (fun _ _ _ _ => trivial) fun h env db now _ hnow => ?_
  exact ⟨_, List.mem_append_right h (List.mem_singleton.mpr rfl), rfl, rfl, Except.ok.inj hnow⟩

/-- What the account of a PIN to register was created by. -/
def Created (h : List VerificationEvent) (i : ℕ) (email : String) : Prop :=
  ∃ e ∈ h, e.thread = i ∧ ∃ user roles id, e.req = .createUser user roles ∧ normalizeEmail user.email = email ∧
    (createUser e.env.1.toAccountEnv user roles e.before).1 = .ok id

lemma safe_createPin {email code purpose : String} {op : Operation} (hop : calls[i]? = some op)
    (hsends : op.sends = some (normalizeEmail email, purpose))
    (hcreated : purpose = "register" → Created w.2 i (normalizeEmail email)) :
    (warranted calls).Safe exec i (OnSuccess anything) (Repo.createPin email code purpose).run w := by
  refine safe_now.run_bind fun now w₁ hle₁ hread => ?_
  refine safe_wrapping _ ?_
  have hunused : (warranted calls).Safe exec i (OnSuccess anything)
      (call (.unusedPins (normalizeEmail email) purpose)).run w₁ :=
    safe_call (fun _ _ _ _ => trivial) fun _ _ _ _ _ _ => trivial
  refine hunused.run_bind fun replaced w₂ hle₂ _ => ?_
  refine safe_call (fun h env db hle => ?_) fun _ _ _ _ _ _ => trivial
  refine ⟨⟨op, hop, hsends⟩, ⟨now, hread.mono (hle₂.trans hle), rfl⟩, fun hregister => ?_⟩
  obtain ⟨e, he, hrest⟩ := hcreated hregister
  exact ⟨e, (hle₁.trans (hle₂.trans hle)).subset he, hrest⟩

lemma safe_pinStatement {q : PinRequest} {post : PinReply q → World (Env × Fault) Request Database → Prop}
    (hq : (warranted calls).Safe exec i (OnSuccess post) (call (.pin q)).run w) :
    (warranted calls).Safe exec i (OnSuccess post) (Repo.pinStatement q).run w := by
  cases q <;> exact safe_wrapping _ hq

/-- A statement whose reply is not looked at here. -/
lemma safe_anyStatement (q : PinRequest) :
    (warranted calls).Safe exec i (OnSuccess anything) ((query q).hoist Repo.pinStatement).run w := by
  unfold query
  rw [hoist_send]
  exact safe_pinStatement (safe_call (fun _ _ _ _ => trivial) fun _ _ _ _ _ _ => trivial)

lemma safe_pinLookupFailure {post : Except PinError AuthPin → World (Env × Fault) Request Database → Prop}
    (hpost : ∀ e w', post (.error e) w') (email code purpose : String) :
    (warranted calls).Safe exec i (OnSuccess post)
      ((Auth.Repo.pinLookupFailure email code purpose).hoist Repo.pinStatement).run w := by
  unfold Auth.Repo.pinLookupFailure
  change (warranted calls).Safe exec i (OnSuccess post) (((query _).bind _).hoist Repo.pinStatement).run w
  rw [hoist_bind]
  refine (safe_anyStatement _).run_bind fun existing w₁ _ _ => ?_
  cases existing with
  | none => exact hpost _ _
  | some existing =>
    by_cases hused : existing.usedAt.isSome
    · simp only [hused]
      exact hpost _ _
    · simp only [hused]
      change (warranted calls).Safe exec i (OnSuccess post) (((query _).bind _).hoist Repo.pinStatement).run w₁
      rw [hoist_bind]
      refine (safe_anyStatement _).run_bind fun now w₂ _ _ => ?_
      split <;> exact hpost _ _

/-- An accepted PIN was presented. -/
lemma safe_validateAndConsumePin (email code purpose : String) :
    (warranted calls).Safe exec i
      (OnSuccess fun r w' => ∀ used, r = .ok used → ∃ pin, Presents w'.2 i email code purpose pin)
      (Repo.validateAndConsumePin email code purpose).run w := by
  unfold Repo.validateAndConsumePin Auth.Repo.validateAndConsumePin
  change (warranted calls).Safe exec i _ (((query _).bind _).hoist Repo.pinStatement).run w
  rw [hoist_bind]
  unfold query
  rw [hoist_send]
  refine (safe_pinStatement safe_now).run_bind fun t w₁ _ hread => ?_
  change (warranted calls).Safe exec i _ (((Program.send _).bind _).hoist Repo.pinStatement).run w₁
  rw [hoist_bind, hoist_send]
  have hfirst : (warranted calls).Safe exec i (OnSuccess fun (found : Option AuthPin) w' =>
      ∀ pin, found = some pin → Presents w'.2 i email code purpose pin)
      (call (.pin (.firstUnused email code purpose t))).run w₁ := by
    refine safe_call (fun _ _ _ _ => trivial) fun h env db found hle hfound pin hpin => ?_
    have hexec := carryOut_of_exec hfound
    have hfirst : firstUnusedPin db email code purpose t = some pin := (Except.ok.inj hexec).trans hpin
    exact ⟨h, _, [], rfl, rfl, t, hread.mono hle, rfl, hfirst⟩
  refine (safe_pinStatement hfirst).run_bind fun found w₂ _ hfound => ?_
  cases found with
  | none => exact safe_pinLookupFailure (fun _ _ _ h => by cases h) email code purpose
  | some pin =>
    have hpresents := hfound pin rfl
    change (warranted calls).Safe exec i _ (((query _).bind _).hoist Repo.pinStatement).run w₂
    rw [hoist_bind]
    refine (safe_anyStatement _).run_bind fun now w₃ hle₃ _ => ?_
    change (warranted calls).Safe exec i _ (((query _).bind _).hoist Repo.pinStatement).run w₃
    rw [hoist_bind]
    refine (safe_anyStatement _).run_bind fun _ w₄ hle₄ _ => ?_
    exact fun _ _ => ⟨pin, hpresents.mono (hle₃.trans hle₄)⟩

/-- What follows an accepted PIN. -/
lemma safe_accepted_bind {email code purpose context : String} {f : Except PinError AuthPin → Call Unit}
    (hok : ∀ used pin w', Presents w'.2 i email code purpose pin →
      (warranted calls).Safe exec i (OnSuccess anything) (f (.ok used)).run w')
    (herror : ∀ e w', (warranted calls).Safe exec i (OnSuccess anything) (f (.error e)).run w') :
    (warranted calls).Safe exec i (OnSuccess anything)
      (wrapping context (Repo.validateAndConsumePin email code purpose) >>= f).run w := by
  refine (safe_wrapping _ (safe_validateAndConsumePin email code purpose)).run_bind fun r w' _ hr => ?_
  cases r with
  | ok used =>
    obtain ⟨pin, hpresents⟩ := hr used rfl
    exact hok used pin w' hpresents
  | error e => exact herror e w'

/-- An account that was found is sent a PIN. -/
lemma safe_sendPIN {email purpose context : String} {f : Except VerificationError Postgres.AuthUser → Call Unit}
    {op : Operation} (cfg : AuthConfig) (hop : calls[i]? = some op)
    (hsends : op.sends = some (normalizeEmail email, purpose))
    (hpurpose : purpose ≠ "register") (herror : ∀ e, f (.error e) = return)
    (hok : ∀ user, f (.ok user) = do
      let code ← wrapping context (generatePIN 6)
      let _ ← outcome (Repo.createPin email code purpose)) :
    (warranted calls).Safe exec i (OnSuccess anything)
      (outcome (Repo.findUserByEmail email (defaultTenantID cfg)) >>= f).run w := by
  refine safe_outcome_bind (safe_findUserByEmail _ _) (fun user w₁ _ _ => ?_) fun e w₁ _ => ?_
  · rw [hok]
    refine (safe_wrapping _ (safe_generatePIN 6)).run_bind fun code w₂ _ _ => ?_
    exact safe_outcome_bind (safe_createPin hop hsends fun h => absurd h hpurpose) (fun _ _ _ _ => trivial)
      fun _ _ _ => trivial
  · rw [herror]
    trivial

lemma safe_register {req : RegisterRequest} (cfg : AuthConfig) (hop : calls[i]? = some (.register req)) :
    (warranted calls).Safe exec i (OnSuccess anything) (register cfg req).run w := by
  refine safe_outcome_bind (safe_findUserByEmail _ _) (fun user w₁ _ _ => trivial) fun _ w₁ _ => ?_
  have hhash : (warranted calls).Safe exec i (OnSuccess anything) (call (.hashPassword req.password)).run w₁ :=
    safe_call (fun _ _ _ _ => trivial) fun _ _ _ _ _ _ => trivial
  refine (safe_wrapping _ hhash).run_bind fun passwordHash w₂ _ _ => ?_
  have hcreate (user : Postgres.AuthUser) (hemail : user.email = req.email) (w) :
      (warranted calls).Safe exec i (OnSuccess fun _ w' => Created w'.2 i (normalizeEmail req.email))
        (Repo.createUser user ["user"]).run w := by
    have hcall : (warranted calls).Safe exec i (OnSuccess fun _ w' => Created w'.2 i (normalizeEmail req.email))
        (call (.createUser user ["user"])).run w := by
      refine safe_call (fun _ _ _ _ => trivial) fun h env db id hle hid => ?_
      have hexec := carryOut_of_exec hid
      refine ⟨_, List.mem_append_right h (List.mem_singleton.mpr rfl), rfl, user, ["user"], id, rfl, by rw [hemail], ?_⟩
      change (createUser env.1.toAccountEnv user ["user"] db).1 = .ok id
      change (createUser env.1.toAccountEnv user ["user"] db).1.mapError createFailure = .ok id at hexec
      cases hreply : (createUser env.1.toAccountEnv user ["user"] db).1 with
      | error e =>
        rw [hreply] at hexec
        cases hexec
      | ok id' =>
        rw [hreply] at hexec
        exact congrArg Except.ok (Except.ok.inj hexec)
    refine hcall.run_tryCatch fun e w' _ => ?_
    cases e <;> trivial
  refine safe_outcome_bind (hcreate _ rfl w₂) (fun id w₃ _ hcreated => ?_) fun _ w₃ _ => trivial
  refine (safe_wrapping _ (safe_generatePIN 6)).run_bind fun code w₄ hle₄ _ => ?_
  refine safe_outcome_bind (safe_createPin hop rfl fun _ => ?_) (fun _ _ _ _ => trivial) fun _ _ _ => trivial
  obtain ⟨e, he, hrest⟩ := hcreated
  exact ⟨e, hle₄.subset he, hrest⟩

lemma safe_verifyPIN {req : VerifyPinRequest} (cfg : AuthConfig) (hop : calls[i]? = some (.verifyPIN req)) :
    (warranted calls).Safe exec i (OnSuccess anything) (verifyPIN cfg req).run w := by
  refine safe_accepted_bind (fun _ pin w' hpresents => ?_) fun _ _ => trivial
  by_cases hpurpose : req.purpose = "register"
  · simp only [hpurpose, ↓reduceIte]
    refine safe_wrapping _ ?_
    have hcall : (warranted calls).Safe exec i (OnSuccess anything)
        (call (.updateUserStatus req.email (defaultTenantID cfg) "ACTIVE")).run w' :=
      safe_call (fun h env db hle => ⟨req, hop, hpurpose, rfl, pin, hpurpose ▸ hpresents.mono hle⟩)
        fun _ _ _ _ _ _ => trivial
    refine hcall.run_tryCatch fun e w' _ => ?_
    cases e <;> trivial
  · simp only [hpurpose, ↓reduceIte]
    trivial

lemma safe_resetPassword {req : ResetPasswordRequest} (cfg : AuthConfig) (hop : calls[i]? = some (.resetPassword req)) :
    (warranted calls).Safe exec i (OnSuccess anything) (resetPassword cfg req).run w := by
  refine safe_accepted_bind (fun _ pin w₁ hpresents => ?_) fun _ _ => trivial
  have hhash : (warranted calls).Safe exec i (OnSuccess anything) (call (.hashPassword req.newPassword)).run w₁ :=
    safe_call (fun _ _ _ _ => trivial) fun _ _ _ _ _ _ => trivial
  refine (safe_wrapping _ hhash).run_bind fun newHash w₂ hle₂ _ => ?_
  have hcall : (warranted calls).Safe exec i (OnSuccess anything)
      (call (.updatePasswordHash req.email (defaultTenantID cfg) newHash)).run w₂ :=
    safe_call (fun h env db hle => ⟨req, hop, rfl, pin, hpresents.mono (hle₂.trans hle)⟩) fun _ _ _ _ _ _ => trivial
  have hupdate : (warranted calls).Safe exec i (OnSuccess anything)
      (Repo.updatePasswordHash req.email (defaultTenantID cfg) newHash).run w₂ := by
    refine hcall.run_tryCatch fun e w' _ => ?_
    cases e <;> trivial
  refine (safe_wrapping _ hupdate).run_bind fun _ w₃ _ _ => ?_
  refine safe_outcome_bind (safe_findUserByEmail _ _) (fun user w₄ _ _ => ?_) fun _ _ _ => trivial
  have hrevoke : (warranted calls).Safe exec i (OnSuccess anything)
      (call (.revokeAllUserSessionsWithReason user.id (defaultTenantID cfg) "logout")).run w₄ :=
    safe_call (fun _ _ _ _ => trivial) fun _ _ _ _ _ _ => trivial
  exact safe_outcome_bind (safe_wrapping _ hrevoke) (fun _ _ _ _ => trivial) fun _ _ _ => trivial

lemma safe_program {op : Operation} (cfg : AuthConfig) (hop : calls[i]? = some op) :
    (warranted calls).Safe exec i (OnSuccess anything) (op.program cfg).run w := by
  cases op with
  | register req => exact safe_register cfg hop
  | verifyPIN req => exact safe_verifyPIN cfg hop
  | forgotPassword req => exact safe_sendPIN cfg hop rfl (by decide) (fun _ => rfl) fun _ => rfl
  | resendPIN req =>
    refine safe_sendPIN cfg hop rfl ?_ (fun _ => rfl) fun _ => rfl
    unfold resentPurpose
    split <;> decide
  | resetPassword req => exact safe_resetPassword cfg hop

end Safe

/-- Every request of a run has what it presupposes. -/
lemma provenance_verificationRun (cfg : AuthConfig) (db : Database) (calls : List Operation)
    (schedule : List (ℕ × (Env × Fault))) :
    Provenance (Warranted calls) (verificationRun cfg db calls schedule).history := by
  refine (provenance_run exec (fun _ => True) (Warranted calls) (fun _ => OnSuccess anything) db
    (calls.map (fun call => (call.program cfg).run)) trivial (fun i p hp => ?_) schedule).2.1
  rw [List.getElem?_map, Option.map_eq_some_iff] at hp
  obtain ⟨op, hop, rfl⟩ := hp
  exact safe_program cfg hop

/-! ## The tables -/

section Tables

omit [AccountLibrary]

omit [Library] in
lemma Later.refl (pin : AuthPin) : Later pin pin := ⟨rfl, id⟩

omit [Library] in
lemma Later.trans {a b c : AuthPin} (hab : Later a b) (hbc : Later b c) : Later a c := by
  refine ⟨?_, fun hc => hab.2 (hbc.2 hc)⟩
  rw [hbc.1, hab.1]

omit [Library] in
lemma StoredAs.later {new a b : AuthPin} (h : StoredAs new a) (hab : Later a b) : StoredAs new b := by
  rw [hab.1]
  exact h

/-- What a request leaves of an account. -/
structure AccountAfter (q : Request) (user user' : Postgres.AuthUser) : Prop where
  id : user'.id = user.id
  email : user'.email = user.email
  status : user'.status = user.status ∨ ∃ email tenantID status, q = .updateUserStatus email tenantID status ∧
    user.email = normalizeEmail email
  passwordHash : user'.passwordHash = user.passwordHash ∨ ∃ email tenantID hash,
    q = .updatePasswordHash email tenantID hash ∧ user.email = normalizeEmail email

lemma AccountAfter.refl (q : Request) (user : Postgres.AuthUser) : AccountAfter q user user :=
  ⟨rfl, rfl, .inl rfl, .inl rfl⟩

/-- A created account is a new row, under an address that had none. -/
lemma createUser_cases (env : AccountEnv) (user : Postgres.AuthUser) (roles : List String) (db : Database) :
    (∃ e, createUser env user roles db = (.error e, db)) ∨
      ∃ row users, varchar 255 (normalizeEmail user.email) = some row.email ∧
        row.email ∉ db.users.rows.map Postgres.AuthUser.email ∧ users.rows = db.users.rows ++ [row] ∧
        createUser env user roles db =
          (.ok env.id, AccessControl.replaceUserRoles { db with users := users } env.id.hex roles) := by
  unfold createUser
  split
  · exact .inl ⟨_, rfl⟩
  · next row hrow =>
    split
    · exact .inl ⟨_, rfl⟩
    · next users husers =>
      have hemail : varchar 255 (normalizeEmail user.email) = some row.email := by
        unfold admittedUser at hrow
        simp only [Option.bind_eq_bind, Option.bind_eq_some_iff] at hrow
        obtain ⟨_, _, email, hemail, _, _, _, _, _, _, hrow⟩ := hrow
        obtain rfl := Option.some.inj hrow
        exact hemail
      unfold insertUser at husers
      split at husers
      · next hfree =>
        obtain rfl := Option.some.inj husers
        exact .inr ⟨row, _, hemail, hfree.2, rfl, rfl⟩
      · cases husers

lemma account_updateAccount {db : Database} {user : Postgres.AuthUser} (hmem : user ∈ db.users.rows)
    (email tenantID : String) (columns : Columns) (now : Time) :
    ∃ user' ∈ (updateAccount db email tenantID columns now).2.users.rows,
      user'.id = user.id ∧ user'.email = user.email ∧
        (user' = user ∨ user.email = normalizeEmail email ∧ user' = columns.apply now user) := by
  unfold updateAccount
  split
  · refine ⟨_, List.mem_map_of_mem hmem, setColumns_id .., setColumns_email .., ?_⟩
    unfold setColumns
    split
    · next hnamed =>
      unfold named at hnamed
      simp only [Bool.and_eq_true, decide_eq_true_eq] at hnamed
      exact .inr ⟨hnamed.1.2, rfl⟩
    · exact .inl rfl
  · exact ⟨user, hmem, rfl, rfl, .inl rfl⟩

variable [AccountLibrary]

lemma account_carryOut (env : Env) (q : Request) {db : Database} {user : Postgres.AuthUser}
    (hmem : user ∈ db.users.rows) : ∃ user' ∈ (carryOut env q db).2.users.rows, AccountAfter q user user' := by
  cases q with
  | pin q => cases q <;> exact ⟨user, hmem, .refl _ _⟩
  | createUser new roles =>
    obtain ⟨e, hfails⟩ | ⟨row, users, -, -, hrows, hcreates⟩ := createUser_cases env.toAccountEnv new roles db
    · change ∃ user' ∈ (createUser env.toAccountEnv new roles db).2.users.rows, _
      rw [hfails]
      exact ⟨user, hmem, .refl _ _⟩
    · change ∃ user' ∈ (createUser env.toAccountEnv new roles db).2.users.rows, _
      rw [hcreates]
      exact ⟨user, hrows ▸ List.mem_append_left _ hmem, .refl _ _⟩
  | updateUserStatus email tenantID status =>
    obtain ⟨user', hmem', hid, hemail, hsame | ⟨hnamed, rfl⟩⟩ :=
      account_updateAccount hmem email tenantID { status := some status } env.now
    · exact ⟨user', hmem', hid, hemail, .inl (by rw [hsame]), .inl (by rw [hsame])⟩
    · exact ⟨_, hmem', hid, hemail, .inr ⟨email, tenantID, status, rfl, hnamed⟩, .inl rfl⟩
  | updatePasswordHash email tenantID hash =>
    obtain ⟨user', hmem', hid, hemail, hsame | ⟨hnamed, rfl⟩⟩ :=
      account_updateAccount hmem email tenantID { passwordHash := some hash } env.now
    · exact ⟨user', hmem', hid, hemail, .inl (by rw [hsame]), .inl (by rw [hsame])⟩
    · exact ⟨_, hmem', hid, hemail, .inl rfl, .inr ⟨email, tenantID, hash, rfl, hnamed⟩⟩
  | replacePins replaced pin =>
    refine ⟨user, ?_, .refl _ _⟩
    change user ∈ (replacePins db env.id replaced pin).2.users.rows
    unfold replacePins
    split
    · exact hmem
    · split <;> exact hmem
  | _ => exact ⟨user, hmem, .refl _ _⟩

/-- A row comes from an earlier one, or a request has stored it. -/
lemma pin_carryOut (env : Env) (q : Request) {db : Database} {pin : AuthPin}
    (hmem : pin ∈ (carryOut env q db).2.pins.docs) :
    (∃ old ∈ db.pins.docs, Later old pin) ∨ ∃ replaced new, q = .replacePins replaced new ∧ StoredAs new pin := by
  have hkept (h : pin ∈ db.pins.docs) : ∃ old ∈ db.pins.docs, Later old pin := ⟨pin, h, .refl pin⟩
  cases q with
  | pin q =>
    cases q with
    | markUsed id now =>
      refine .inl (forall_modifyFirst (P := fun pin => ∃ old ∈ db.pins.docs, Later old pin)
        (fun d hd => ⟨d, hd, .refl d⟩) (fun d hd => ⟨d, List.mem_of_find?_eq_some hd, rfl, fun hnone => ?_⟩) pin hmem)
      cases hnone
    | _ => exact .inl (hkept hmem)
  | createUser new roles =>
    change pin ∈ (createUser env.toAccountEnv new roles db).2.pins.docs at hmem
    obtain ⟨e, hfails⟩ | ⟨row, users, -, -, hrows, hcreates⟩ := createUser_cases env.toAccountEnv new roles db
    · rw [hfails] at hmem
      exact .inl (hkept hmem)
    · rw [hcreates] at hmem
      exact .inl (hkept hmem)
  | updateUserStatus email tenantID status =>
    change pin ∈ (updateAccount db email tenantID _ env.now).2.pins.docs at hmem
    unfold updateAccount at hmem
    split at hmem <;> exact .inl (hkept hmem)
  | updatePasswordHash email tenantID hash =>
    change pin ∈ (updateAccount db email tenantID _ env.now).2.pins.docs at hmem
    unfold updateAccount at hmem
    split at hmem <;> exact .inl (hkept hmem)
  | replacePins replaced new =>
    change pin ∈ (replacePins db env.id replaced new).2.pins.docs at hmem
    unfold replacePins at hmem
    split at hmem
    · exact .inl (hkept hmem)
    · next email hemail =>
      split at hmem
      · exact .inl (hkept hmem)
      · next pins hpins =>
        change pin ∈ pins.docs at hmem
        rw [Collection.docs_insertOne hpins] at hmem
        obtain hmem | hmem := List.mem_append.mp hmem
        · exact .inl (hkept (List.mem_of_mem_filter hmem))
        · obtain rfl := List.mem_singleton.mp hmem
          exact .inr ⟨replaced, new, rfl, hemail, rfl, rfl, rfl⟩
  | _ => exact .inl (hkept hmem)

lemma exec_db (env : Env × Fault) (q : Request) (db : Database) :
    (exec env q db).2 = db ∨ (exec env q db).2 = (carryOut env.1 q db).2 := by
  unfold exec
  split
  · obtain ⟨hlost, -⟩ | ⟨hdone, -⟩ := withFaults_store VerificationError.storeFailure carryOut env q db
    · exact .inl hlost
    · exact .inr hdone
  · exact .inr rfl

lemma account_exec (env : Env × Fault) (q : Request) {db : Database} {user : Postgres.AuthUser}
    (hmem : user ∈ db.users.rows) : ∃ user' ∈ (exec env q db).2.users.rows, AccountAfter q user user' := by
  obtain hsame | hdone := exec_db env q db
  · exact ⟨user, hsame.symm ▸ hmem, .refl q user⟩
  · rw [hdone]
    exact account_carryOut env.1 q hmem

lemma pin_exec (env : Env × Fault) (q : Request) {db : Database} {pin : AuthPin}
    (hmem : pin ∈ (exec env q db).2.pins.docs) :
    (∃ old ∈ db.pins.docs, Later old pin) ∨ ∃ replaced new, q = .replacePins replaced new ∧ StoredAs new pin := by
  obtain hsame | hdone := exec_db env q db
  · rw [hsame] at hmem
    exact .inl ⟨pin, hmem, .refl pin⟩
  · rw [hdone] at hmem
    exact pin_carryOut env.1 q hmem

end Tables

/-! ## Runs -/

section Runs

variable {calls} {db : Database} {h : List VerificationEvent}

lemma Stems.mono {h' : List VerificationEvent} {pin : AuthPin} (hstems : Stems calls db h pin) (hle : h <+: h') :
    Stems calls db h' pin := by
  obtain hold | ⟨g, e, g', rfl, hstored⟩ := hstems
  · exact .inl hold
  · obtain ⟨rest, rfl⟩ := hle
    exact .inr ⟨g, e, g' ++ rest, by simp, hstored⟩

/-- Every row of the table stems from the first table or from a call. -/
lemma stems_of_replays {db' : Database} (hr : Replays exec db h db') (hh : Provenance (Warranted calls) h) :
    ∀ pin ∈ db'.pins.docs, Stems calls db h pin := by
  induction h using List.reverseRecOn generalizing db' with
  | nil =>
    obtain rfl : db = db' := hr
    exact fun pin hmem => .inl ⟨pin, hmem, .refl pin⟩
  | append_singleton h e ih =>
    intro pin hmem
    obtain ⟨s, hprefix, rfl, rfl⟩ := replays_append.mp hr
    have hearlier : Provenance (Warranted calls) h := fun g d g' heq => hh g d (g' ++ [e]) (by simp [heq])
    obtain ⟨old, hold, hlater⟩ | ⟨replaced, new, hreq, hstored⟩ := pin_exec e.env e.req hmem
    · obtain ⟨older, holder, hlater'⟩ | ⟨g, d, g', rfl, replaced, new, stored, hreq, hsent, hthere, hstored, hlater'⟩ :=
        ih hprefix hearlier old hold
      · exact .inl ⟨older, holder, hlater'.trans hlater⟩
      · exact .inr ⟨g, d, g' ++ [e], by simp, replaced, new, stored, hreq, hsent, hthere, hstored,
          hlater'.trans hlater⟩
    · have hsent := hh h e [] rfl
      unfold Warranted at hsent
      rw [hreq] at hsent
      exact .inr ⟨h, e, [], rfl, replaced, new, pin, hreq, hsent, hmem, hstored, .refl pin⟩

lemma accepts_of_presents {db' : Database} (hr : Replays exec db h db') (hh : Provenance (Warranted calls) h) {i : ℕ}
    {email code purpose : String} {pin : AuthPin} (hpresents : Presents h i email code purpose pin) :
    Accepts calls db h i email code purpose pin := by
  obtain ⟨g, e, g', rfl, hthread, now, hread, hreq, hfound⟩ := hpresents
  have hmem := List.mem_of_mem_head? hfound
  rw [List.mem_insertionSort, List.mem_filter] at hmem
  obtain ⟨hstored, hmatches⟩ := hmem
  simp only [matchesPin, Bool.and_eq_true, decide_eq_true_eq, Option.isNone_iff_eq_none] at hmatches
  obtain ⟨⟨⟨⟨hemail, hcode⟩, hpurpose⟩, hunused⟩, hlive⟩ := hmatches
  obtain ⟨s, hrg, hbefore, -⟩ := replays_append.mp hr
  have hhg : Provenance (Warranted calls) g := fun f d f' heq => hh f d (f' ++ e :: g') (by simp [heq])
  exact ⟨⟨g, e, g', rfl, hthread, hstored, stems_of_replays hrg hhg pin (hbefore ▸ hstored), now, hread, hreq, hlive⟩,
    hunused, hemail, hcode, hpurpose⟩

end Runs

/-- In every interleaving, a password changes only in a call to reset it that has presented the code of a live PIN of
the account's address, sent for a forgotten password. -/
theorem password_change_presents_pin (cfg : AuthConfig) {db : Database} {calls : List Operation}
    {schedule : List (ℕ × (Env × Fault))} {h₁ h₂ : List VerificationEvent} {e : VerificationEvent}
    (hsplit : (verificationRun cfg db calls schedule).history = h₁ ++ e :: h₂) {user user' : Postgres.AuthUser}
    (huser : user ∈ e.before.users.rows) (huser' : user' ∈ (e.after exec).users.rows) (hid : user'.id = user.id)
    (hchange : user'.passwordHash ≠ user.passwordHash) :
    ∃ req pin, calls[e.thread]? = some (.resetPassword req) ∧ user.email = normalizeEmail req.email ∧
      Accepts calls db h₁ e.thread req.email req.code "forgot_password" pin := by
  have hreplays : Replays exec db (verificationRun cfg db calls schedule).history
    (verificationRun cfg db calls schedule).store := run_replays db _ schedule
  have hprovenance := provenance_verificationRun cfg db calls schedule
  rw [hsplit] at hreplays hprovenance
  obtain ⟨s, hreplays, hbefore, -⟩ := replays_append.mp hreplays
  obtain ⟨after, hafter, haccount⟩ := account_exec e.env e.req huser
  obtain rfl : after = user' :=
    List.inj_on_of_nodup_map (e.after exec).users.id_nodup hafter huser' (haccount.id.trans hid.symm)
  obtain hsame | ⟨email, tenantID, hash, hreq, hemail⟩ := haccount.passwordHash
  · exact absurd hsame hchange
  · have hwarranted := hprovenance h₁ e h₂ rfl
    unfold Warranted at hwarranted
    rw [hreq] at hwarranted
    obtain ⟨req, hcall, rfl, pin, hpresents⟩ := hwarranted
    have hearlier : Provenance (Warranted calls) h₁ := fun g d g' heq => hprovenance g d (g' ++ e :: h₂) (by simp [heq])
    exact ⟨req, pin, hcall, hemail, accepts_of_presents hreplays hearlier hpresents⟩

/-- An account whose PINs to register have expired or are used keeps its status, whatever calls are made: a PIN
that is sent again does not activate it. -/
theorem status_kept_without_register_pin (cfg : AuthConfig) {db : Database} (calls : List Operation)
    {schedule : List (ℕ × (Env × Fault))} {user : Postgres.AuthUser} (huser : user ∈ db.users.rows)
    (hpins : ∀ pin ∈ db.pins.docs, pin.email = user.email → pin.purpose = "register" → pin.usedAt = none →
      ∀ choice ∈ schedule, pin.expiresAt ≤ choice.2.1.now) :
    ∃ user' ∈ (verificationRun cfg db calls schedule).store.users.rows,
      user'.id = user.id ∧ user'.email = user.email ∧ user'.status = user.status := by
  have hreplays : Replays exec db (verificationRun cfg db calls schedule).history
    (verificationRun cfg db calls schedule).store := run_replays db _ schedule
  have hprovenance := provenance_verificationRun cfg db calls schedule
  have hclock : ∀ e ∈ (verificationRun cfg db calls schedule).history, ∃ choice ∈ schedule, e.env = choice.2 :=
    fun e he => (history_env _ schedule he).resolve_left List.not_mem_nil
  refine hreplays.persists (Q := fun db => ∃ user' ∈ db.users.rows,
    user'.id = user.id ∧ user'.email = user.email ∧ user'.status = user.status) ⟨user, huser, rfl, rfl, rfl⟩ ?_
  rintro h₁ e h₂ hsplit hbefore ⟨stored, hstored, hid, hemail, hstatus⟩
  obtain ⟨after, hafter, haccount⟩ := account_exec e.env e.req hstored
  refine ⟨after, hafter, haccount.id.trans hid, haccount.email.trans hemail, ?_⟩
  obtain hsame | ⟨email, tenantID, status, hreq, hnamed⟩ := haccount.status
  · exact hsame.trans hstatus
  · exfalso
    rw [hsplit] at hreplays hprovenance hclock
    obtain ⟨s, hreplays, -⟩ := replays_append.mp hreplays
    have hwarranted := hprovenance h₁ e h₂ rfl
    unfold Warranted at hwarranted
    rw [hreq] at hwarranted
    obtain ⟨req, -, -, -, pin, hpresents⟩ := hwarranted
    have hearlier : Provenance (Warranted calls) h₁ := fun g d g' heq => hprovenance g d (g' ++ e :: h₂) (by simp [heq])
    obtain ⟨⟨f, d, f', rfl, -, -, hstems, now, hread, -, hlive⟩, hunused, hpin, -, hpurpose⟩ :=
      accepts_of_presents hreplays hearlier hpresents
    have haddress : pin.email = user.email := hpin.trans (hnamed.symm.trans hemail)
    obtain ⟨old, hold, hlater⟩ | ⟨g, r, g', rfl, replaced, new, stored', -, hsent, -, hstored', hlater⟩ := hstems
    · -- A PIN from the start has expired by every time that a call reads.
      obtain ⟨n, hn, -, -, rfl⟩ := hread
      obtain ⟨choice, hchoice, henv⟩ := hclock n (by simp [hn])
      rw [hlater.1] at haddress hpurpose hlive
      have hexpired := hpins old hold haddress hpurpose (hlater.2 hunused) choice hchoice
      rw [henv] at hlive
      exact absurd hlive (not_lt.mpr hexpired)
    · -- A call that registers the address has found it free.
      obtain ⟨hstoredEmail, -, hstoredPurpose, -⟩ := hstored'.later hlater
      obtain ⟨c, hc, -, account, roles, id, -, haccountEmail, hcreated⟩ :=
        hsent.created (hstoredPurpose.symm.trans hpurpose)
      obtain ⟨there, hthere, -, htaken, -⟩ := hbefore c (by simp [hc])
      obtain ⟨_, hfails⟩ | ⟨row, users, hrow, hfree, -⟩ := createUser_cases c.env.1.toAccountEnv account roles c.before
      · rw [hfails] at hcreated
        cases hcreated
      · rw [haccountEmail, hstoredEmail, haddress] at hrow
        rw [← Option.some.inj hrow, ← htaken] at hfree
        exact hfree (List.mem_map_of_mem hthere)

end Origins

section Sample

attribute [local instance] asciiLibrary

namespace Sample

@[reducible] def plainHashes : AccountLibrary := ⟨fun password salt => salt ++ password, fun _ => ""⟩

attribute [local instance] plainHashes

def cfg : AuthConfig := { jwtSecret := "", jwtRefreshSecret := "", accessTokenTTL := 0, refreshTokenTTL := 0 }

def user (status : String) : Postgres.AuthUser :=
  { id := Sample.id 2, tenantID := "default", email := "an@erg.vn", passwordHash := "old", status := status }

def accounts (user : Postgres.AuthUser) (pin : AuthPin) : Database :=
  { Database.empty with
    users := ⟨[user], List.nodup_singleton _, List.nodup_singleton _⟩
    pins := ⟨[pin], List.nodup_singleton _⟩ }

def reset : List Operation := [.resetPassword ⟨"an@erg.vn", "123456", "new"⟩]

lemma random_bound : 0 < 1000000 := by decide

lemma digit_bound : 0 < 10 := by decide

def turns (threads : List ℕ) : List (ℕ × (Env × Fault)) :=
  threads.map fun i =>
    (i, { now := 60, id := Sample.id 3, random := ⟨0, random_bound⟩, digit := ⟨0, digit_bound⟩ }, Fault.none)

def resetRun : Config (Env × Fault) Request Reply Database (Except VerificationError Unit) :=
  verificationRun cfg (accounts (user "ACTIVE") Auth.Sample.pin) reset (turns [0, 0, 0, 0, 0, 0, 0, 0])

end Sample

attribute [local instance] Sample.plainHashes

theorem reset_presents_pin : ∃ h₁ e h₂, Sample.resetRun.history = h₁ ++ e :: h₂ ∧ ∃ req pin,
    Sample.reset[e.thread]? = some (.resetPassword req) ∧ "an@erg.vn" = normalizeEmail req.email ∧
      Accepts Sample.reset (Sample.accounts (Sample.user "ACTIVE") Auth.Sample.pin) h₁ e.thread req.email req.code
        "forgot_password" pin := by
  have hlength : 5 < Sample.resetRun.history.length := by decide
  have hsplit : Sample.resetRun.history =
      Sample.resetRun.history.take 5 ++ Sample.resetRun.history[5] :: Sample.resetRun.history.drop 6 := by
    rw [← List.drop_eq_getElem_cons hlength, List.take_append_drop]
  refine ⟨_, _, _, hsplit, ?_⟩
  have huser : Sample.user "ACTIVE" ∈ Sample.resetRun.history[5].before.users.rows := List.mem_singleton.mpr rfl
  have huser' : { Sample.user "ACTIVE" with passwordHash := "new", updatedAt := 60 } ∈
      (Sample.resetRun.history[5].after exec).users.rows := List.mem_singleton.mpr rfl
  exact password_change_presents_pin Sample.cfg hsplit huser huser' rfl (by decide)

/-- The PIN is sent again and presented, and the account stays as it is. -/
theorem resent_pin_leaves_account_pending : ∃ user' ∈ (verificationRun Sample.cfg
    (Sample.accounts (Sample.user "PENDING") { Auth.Sample.pin with purpose := "register", expiresAt := 50 })
    [.resendPIN ⟨"an@erg.vn", "register"⟩, .verifyPIN ⟨"an@erg.vn", "000000", "verify"⟩]
    (Sample.turns (List.replicate 10 0 ++ List.replicate 5 1))).store.users.rows,
      user'.id = Sample.id 2 ∧ user'.email = "an@erg.vn" ∧ user'.status = "PENDING" := by
  have huser : Sample.user "PENDING" ∈ (Sample.accounts (Sample.user "PENDING")
      { Auth.Sample.pin with purpose := "register", expiresAt := 50 }).users.rows := List.mem_singleton.mpr rfl
  refine status_kept_without_register_pin Sample.cfg _ huser fun pin hpin _ _ _ choice hchoice => ?_
  obtain rfl := List.mem_singleton.mp hpin
  obtain ⟨_, -, rfl⟩ := List.mem_map.mp hchoice
  change (50 : ℤ) ≤ 60
  decide

end Sample

end ErgGo.Auth.Verification
