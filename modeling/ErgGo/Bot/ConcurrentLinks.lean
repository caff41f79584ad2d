import ErgGo.Bot.AccountLinking
import ErgGo.Lib.Interleaving
import ErgGo.Lib.Runs

/-!
# Link codes presented at the same time

`VerifyLinkCode` reads the code, deletes it and saves the link by three requests, and other
verifications run between them. The code is used once where it is not read between the
read and the delete of another call, and where the delete reaches Redis.
-/

namespace ErgGo.Bot
open Go Documents Bson Concurrent Runs

inductive LinkRequest where
  | get (key : String)
  | del (key : String)
  | upsert (platform platformUserID userID : String)

def LinkValue : LinkRequest → Type
  | .get _ => String
  | .del _ => Unit
  | .upsert .. => Unit

abbrev LinkReply (q : LinkRequest) : Type := Except String (LinkValue q)

/-- What one request meets: the clocks, and a failure with whether the server has carried out
the request all the same. -/
structure LinkRequestEnv where
  redisTime : Time
  now : Time
  failure : Option (String × Bool) := none

/-- The request never arrives. -/
def LinkRequestEnv.lost (env : LinkRequestEnv) : Bool :=
  match env.failure with
  | some (_, false) => true
  | _ => false

def LinkStore.carryOut (env : LinkRequestEnv) : (q : LinkRequest) → LinkStore → LinkValue q × LinkStore
  | .get key, s => (s.get env.redisTime key, s)
  | .del key, s => ((), { s with redis := s.redis.erase key })
  | .upsert platform platformUserID userID, s =>
    let accounts := upsertOne (sameUser platform platformUserID) (setLinked userID env.now)
      (newLink platform platformUserID userID env.now) s.accounts
    ((), { s with accounts := accounts })

def LinkStore.serve (env : LinkRequestEnv) (q : LinkRequest) (s : LinkStore) : LinkReply q × LinkStore :=
  match env.failure with
  | none => (.ok (s.carryOut env q).1, (s.carryOut env q).2)
  | some (e, true) => (.error e, (s.carryOut env q).2)
  | some (e, false) => (.error e, s)

/-- No request makes a code. -/
lemma LinkStore.lookup_serve {s : LinkStore} (env : LinkRequestEnv) (q : LinkRequest) {key : String}
    (hkey : s.redis.lookup key = none) : (s.serve env q).2.redis.lookup key = none := by
  have hcarryOut : (s.carryOut env q).2.redis.lookup key = none := by
    cases q with
    | get key' => exact hkey
    | upsert p u v => exact hkey
    | del key' =>
      by_cases hsame : key = key'
      · subst hsame
        exact AList.lookup_erase key s.redis
      · exact (AList.lookup_erase_ne hsame).trans hkey
  unfold LinkStore.serve
  split
  · exact hcarryOut
  · exact hcarryOut
  · exact hkey

/-- One call of `VerifyLinkCode`. -/
structure LinkCall where
  platform : String
  platformUserID : String
  code : String

def LinkCall.key (call : LinkCall) : String := linkCodePrefix ++ call.code

lemma LinkStore.get_of_serve {s : LinkStore} {env : LinkRequestEnv} {key value : String}
    (h : (s.serve env (.get key)).1 = .ok value) : env.failure.isNone ∧ s.get env.redisTime key = value := by
  unfold LinkStore.serve at h
  split at h
  · next hfailure => exact ⟨by rw [hfailure]; rfl, Except.ok.inj h⟩
  · cases h
  · cases h

/-- A delete that reaches Redis. -/
lemma LinkStore.lookup_serve_del {s : LinkStore} {env : LinkRequestEnv} {key : String}
    (h : env.lost = false) : (s.serve env (.del key)).2.redis.lookup key = none := by
  unfold LinkStore.serve
  split
  · exact AList.lookup_erase key s.redis
  · exact AList.lookup_erase key s.redis
  · next e hfailure =>
    unfold LinkRequestEnv.lost at h
    rw [hfailure] at h
    cases h

lemma LinkCall.key_inj {call₁ call₂ : LinkCall} : call₁.key = call₂.key ↔ call₁.code = call₂.code := by
  unfold LinkCall.key
  exact String.append_right_inj _

abbrev LinkProgram := Program LinkRequest LinkReply (Except String String)

namespace LinkProgram

/-- The end of `VerifyLinkCode`, after the delete. -/
def saveLink (call : LinkCall) (userID : String) : LinkProgram :=
  .request (.upsert call.platform call.platformUserID userID) fun
    | .error e => .done (.error ("link: upsert account: " ++ e))
    | .ok _ => .done (.ok userID)

def verifyLinkCode (call : LinkCall) : LinkProgram :=
  .request (.get call.key) fun
    | .error e => .done (.error ("link: get code: " ++ e))
    | .ok (userID : String) =>
      if userID = "" then .done (.error "link: code not found or expired")
      else .request (.del call.key) fun _ => saveLink call userID

end LinkProgram

/-! ## Runs -/

abbrev LinkConfiguration := Config LinkRequestEnv LinkRequest LinkReply LinkStore (Except String String)

def startLinks (s : LinkStore) (calls : List LinkCall) : LinkConfiguration := start s (calls.map LinkProgram.verifyLinkCode)

/-- At most one of the calls with the same code succeeds, and at most one writes a link. -/
structure OneUse (calls : List LinkCall) (c : LinkConfiguration) : Prop where
  succeeds : ∀ (i j : ℕ) callᵢ callⱼ userIDᵢ userIDⱼ, calls[i]? = some callᵢ → calls[j]? = some callⱼ →
    callᵢ.code = callⱼ.code → c.threads[i]? = some (.done (.ok userIDᵢ)) →
      c.threads[j]? = some (.done (.ok userIDⱼ)) → i = j
  writes : ∀ e₁ ∈ c.history, ∀ e₂ ∈ c.history, ∀ call₁ call₂ p₁ u₁ v₁ p₂ u₂ v₂,
    calls[e₁.thread]? = some call₁ → calls[e₂.thread]? = some call₂ → call₁.code = call₂.code →
      e₁.req = .upsert p₁ u₁ v₁ → e₂.req = .upsert p₂ u₂ v₂ → e₁.thread = e₂.thread

def LinkProgram.Deletes (key : String) : LinkProgram → Prop
  | .request (.del key') _ => key' = key
  | _ => False

instance (key : String) : DecidablePred (LinkProgram.Deletes key)
  | .request (.del key') _ => inferInstanceAs (Decidable (key' = key))
  | .request (.get _) _ => .isFalse id
  | .request (.upsert ..) _ => .isFalse id
  | .done _ => .isFalse id

/-- What is asked of the next request of a call: a read finds the code only while no other call
is about to delete it, and a delete reaches Redis. -/
def LinkProgram.UndisturbedIn (c : LinkConfiguration) (env : LinkRequestEnv) : Option LinkProgram → Prop
  | some (.request (.get key) _) =>
    env.failure.isNone → c.store.get env.redisTime key ≠ "" → ∀ p ∈ c.threads, ¬LinkProgram.Deletes key p
  | some (.request (.del _) _) => env.lost = false
  | some (.request (.upsert ..) _) => True
  | some (.done _) => True
  | none => True

instance (c : LinkConfiguration) (env : LinkRequestEnv) : DecidablePred (LinkProgram.UndisturbedIn c env)
  | some (.request (.get key) _) => inferInstanceAs (Decidable (env.failure.isNone → c.store.get env.redisTime key ≠ "" →
      ∀ p ∈ c.threads, ¬LinkProgram.Deletes key p))
  | some (.request (.del _) _) => inferInstanceAs (Decidable (env.lost = false))
  | some (.request (.upsert ..) _) => .isTrue trivial
  | some (.done _) => .isTrue trivial
  | none => .isTrue trivial

def Undisturbed (c : LinkConfiguration) (choice : ℕ × LinkRequestEnv) : Prop :=
  LinkProgram.UndisturbedIn c choice.2 c.threads[choice.1]?

instance (c : LinkConfiguration) (choice : ℕ × LinkRequestEnv) : Decidable (Undisturbed c choice) :=
  inferInstanceAs (Decidable (LinkProgram.UndisturbedIn c choice.2 c.threads[choice.1]?))

/-! ## What a call has done -/

inductive LinkPhase where
  | reading
  | refused (message : String)
  | deleting (userID : String)
  | saving (userID : String)
  | saved (reply : Except String String)

namespace LinkPhase

/-- What is left of the call. -/
def rest (call : LinkCall) : LinkPhase → LinkProgram
  | .reading => LinkProgram.verifyLinkCode call
  | .refused message => .done (.error message)
  | .deleting userID => .request (.del call.key) fun _ => LinkProgram.saveLink call userID
  | .saving userID => LinkProgram.saveLink call userID
  | .saved reply => .done reply

def Found : LinkPhase → Prop
  | .reading => False
  | .refused _ => False
  | .deleting _ => True
  | .saving _ => True
  | .saved _ => True

def Deleted : LinkPhase → Prop
  | .reading => False
  | .refused _ => False
  | .deleting _ => False
  | .saving _ => True
  | .saved _ => True

lemma deleting_or_deleted {phase : LinkPhase} (h : phase.Found) :
    (∃ userID, phase = .deleting userID) ∨ phase.Deleted := by
  cases phase with
  | reading => exact h.elim
  | refused message => exact h.elim
  | deleting userID => exact .inl ⟨userID, rfl⟩
  | saving userID => exact .inr trivial
  | saved reply => exact .inr trivial

end LinkPhase

/-- The calls are in these phases: at most one has found a code, and the code is gone once it
has been deleted. -/
structure CodeUsedOnce (calls : List LinkCall) (phase : ℕ → LinkPhase) (c : LinkConfiguration) : Prop where
  threads : ∀ i : ℕ, c.threads[i]? = (calls[i]?).map fun call => (phase i).rest call
  found : ∀ (i j : ℕ) callᵢ callⱼ, calls[i]? = some callᵢ → calls[j]? = some callⱼ → callᵢ.code = callⱼ.code →
    (phase i).Found → (phase j).Found → i = j
  deleted : ∀ (i : ℕ) call, calls[i]? = some call → (phase i).Deleted → c.store.redis.lookup call.key = none
  wrote : ∀ e ∈ c.history, ∀ p u v, e.req = .upsert p u v → (phase e.thread).Found

namespace CodeUsedOnce

variable {calls : List LinkCall} {phase : ℕ → LinkPhase} {c : LinkConfiguration}

lemma start (s : LinkStore) (calls : List LinkCall) : CodeUsedOnce calls (fun _ => .reading) (startLinks s calls) where
  threads i := List.getElem?_map
  found i j callᵢ callⱼ hᵢ hⱼ hcode hfound := hfound.elim
  deleted i call hcall hdeleted := hdeleted.elim
  wrote e he := by simp [startLinks, Concurrent.start] at he

/-- A call sends its request and goes on to another phase. -/
lemma advance (h : CodeUsedOnce calls phase c) {i : ℕ} {call : LinkCall} (hcall : calls[i]? = some call)
    {q : LinkRequest} {k : LinkReply q → LinkProgram} (hrest : (phase i).rest call = .request q k)
    (env : LinkRequestEnv) (phase' : LinkPhase) (hk : k (c.store.serve env q).1 = phase'.rest call)
    (hkeeps : (phase i).Found → phase'.Found)
    (hfound : phase'.Found → (phase i).Found ∨
      ∀ (j : ℕ) callⱼ, calls[j]? = some callⱼ → callⱼ.code = call.code → ¬(phase j).Found)
    (hdeleted : phase'.Deleted → (c.store.serve env q).2.redis.lookup call.key = none)
    (hwrote : ∀ p u v, q = .upsert p u v → phase'.Found) :
    CodeUsedOnce calls (Function.update phase i phase') (c.step LinkStore.serve (i, env)) := by
  have hthread : c.threads[i]? = some (.request q k) := by rw [h.threads, hcall, Option.map_some, hrest]
  have hstep : c.step LinkStore.serve (i, env) = ⟨(c.store.serve env q).2,
      c.threads.set i (phase'.rest call), c.history ++ [⟨i, env, q, c.store⟩]⟩ := by
    unfold Config.step
    rw [hthread, ← hk]
  have hgrows : ∀ j, (phase j).Found → (Function.update phase i phase' j).Found := by
    intro j hj
    by_cases hji : j = i
    · subst hji
      rw [Function.update_self]
      exact hkeeps hj
    · rwa [Function.update_of_ne hji]
  rw [hstep]
  refine ⟨fun j => ?_, fun j l callⱼ callₗ hⱼ hₗ hcode hfoundⱼ hfoundₗ => ?_, fun j callⱼ hⱼ hdeletedⱼ => ?_,
    fun e he p u v hreq => ?_⟩
  · dsimp only
    rw [List.getElem?_set, h.threads]
    by_cases hij : i = j
    · subst hij
      have hlength : i < c.threads.length := (List.getElem?_eq_some_iff.mp hthread).1
      rw [if_pos rfl, if_pos hlength, hcall, Option.map_some, Function.update_self]
    · rw [if_neg hij, Function.update_of_ne (Ne.symm hij)]
  · by_cases hji : j = i
    · by_cases hli : l = i
      · rw [hji, hli]
      · subst hji
        rw [Function.update_self] at hfoundⱼ
        rw [Function.update_of_ne hli] at hfoundₗ
        obtain rfl : call = callⱼ := Option.some.inj (hcall.symm.trans hⱼ)
        obtain hbefore | hothers := hfound hfoundⱼ
        · exact h.found j l call callₗ hⱼ hₗ hcode hbefore hfoundₗ
        · exact absurd hfoundₗ (hothers l callₗ hₗ hcode.symm)
    · rw [Function.update_of_ne hji] at hfoundⱼ
      by_cases hli : l = i
      · subst hli
        rw [Function.update_self] at hfoundₗ
        obtain rfl : call = callₗ := Option.some.inj (hcall.symm.trans hₗ)
        obtain hbefore | hothers := hfound hfoundₗ
        · exact h.found j l callⱼ call hⱼ hₗ hcode hfoundⱼ hbefore
        · exact absurd hfoundⱼ (hothers j callⱼ hⱼ hcode)
      · rw [Function.update_of_ne hli] at hfoundₗ
        exact h.found j l callⱼ callₗ hⱼ hₗ hcode hfoundⱼ hfoundₗ
  · by_cases hji : j = i
    · subst hji
      rw [Function.update_self] at hdeletedⱼ
      obtain rfl : call = callⱼ := Option.some.inj (hcall.symm.trans hⱼ)
      exact hdeleted hdeletedⱼ
    · rw [Function.update_of_ne hji] at hdeletedⱼ
      exact LinkStore.lookup_serve env q (h.deleted j callⱼ hⱼ hdeletedⱼ)
  · obtain he | he := List.mem_append.mp he
    · exact hgrows e.thread (h.wrote e he p u v hreq)
    · obtain rfl := List.mem_singleton.mp he
      dsimp only
      rw [Function.update_self]
      exact hwrote p u v hreq

lemma step (h : CodeUsedOnce calls phase c) {choice : ℕ × LinkRequestEnv} (hchoice : Undisturbed c choice) :
    ∃ phase', CodeUsedOnce calls phase' (c.step LinkStore.serve choice) := by
  obtain ⟨i, env⟩ := choice
  have hthread := h.threads i
  have hidle : (∀ q k, c.threads[i]? ≠ some (.request q k)) →
      ∃ phase', CodeUsedOnce calls phase' (c.step LinkStore.serve (i, env)) := by
    intro hidle
    refine ⟨phase, ?_⟩
    unfold Config.step
    split
    · next q k hrequest => exact absurd hrequest (hidle q k)
    · exact h
  cases hcall : calls[i]? with
  | none =>
    apply hidle
    simp [hthread, hcall]
  | some call =>
  rw [hcall, Option.map_some] at hthread
  unfold Undisturbed at hchoice
  dsimp only at hchoice
  rw [hthread] at hchoice
  cases hphase : phase i with
  | refused message =>
    apply hidle
    simp [hthread, hphase, LinkPhase.rest]
  | saved reply =>
    apply hidle
    simp [hthread, hphase, LinkPhase.rest]
  | reading =>
    have hrest : (phase i).rest call = LinkProgram.verifyLinkCode call := by rw [hphase]; rfl
    have hnotFound : ¬(phase i).Found := by rw [hphase]; exact id
    cases hreply : (c.store.serve env (.get call.key)).1 with
    | error e =>
      exact ⟨_, h.advance hcall hrest env (.refused ("link: get code: " ++ e)) (by rw [hreply]; rfl)
        (fun hfound => absurd hfound hnotFound) False.elim False.elim (fun p u v hq => by cases hq)⟩
    | ok userID =>
    by_cases hempty : userID = ("" : String)
    · exact ⟨_, h.advance hcall hrest env (.refused "link: code not found or expired")
        (by rw [hreply]; exact if_pos hempty) (fun hfound => absurd hfound hnotFound) False.elim False.elim
        (fun p u v hq => by cases hq)⟩
    · obtain ⟨hanswered, hread⟩ := LinkStore.get_of_serve hreply
      have hundisturbed : ∀ p ∈ c.threads, ¬LinkProgram.Deletes call.key p := by
        rw [hphase] at hchoice
        exact hchoice hanswered (hread ▸ hempty)
      refine ⟨_, h.advance hcall hrest env (.deleting userID) (by rw [hreply]; exact if_neg hempty)
        (fun hfound => absurd hfound hnotFound) (fun _ => .inr fun j callⱼ hⱼ hcode hfound => ?_) False.elim
        (fun p u v hq => by cases hq)⟩
      have hkey : callⱼ.key = call.key := LinkCall.key_inj.mpr hcode
      obtain ⟨userIDⱼ, hphaseⱼ⟩ | hdeleted := LinkPhase.deleting_or_deleted hfound
      · have hthreadⱼ : c.threads[j]? = some (.request (.del callⱼ.key) fun _ => LinkProgram.saveLink callⱼ userIDⱼ) := by
          rw [h.threads, hⱼ, hphaseⱼ]
          rfl
        exact hundisturbed _ (List.mem_of_getElem? hthreadⱼ) hkey
      · have hgone : c.store.redis.lookup call.key = none := hkey ▸ h.deleted j callⱼ hⱼ hdeleted
        apply hempty
        rw [← hread]
        unfold LinkStore.get
        rw [hgone]
  | deleting userID =>
    have hrest : (phase i).rest call = .request (.del call.key) fun _ => LinkProgram.saveLink call userID := by
      rw [hphase]
      rfl
    rw [hphase] at hchoice
    have hgone : (c.store.serve env (.del call.key)).2.redis.lookup call.key = none := LinkStore.lookup_serve_del hchoice
    exact ⟨_, h.advance hcall hrest env (.saving userID) rfl (fun _ => trivial) (fun _ => .inl (by rw [hphase]; trivial))
      (fun _ => hgone) (fun p u v hq => by cases hq)⟩
  | saving userID =>
    have hrest : (phase i).rest call = LinkProgram.saveLink call userID := by rw [hphase]; rfl
    have hgone : (c.store.serve env (.upsert call.platform call.platformUserID userID)).2.redis.lookup call.key = none :=
      LinkStore.lookup_serve env _ (h.deleted i call hcall (by rw [hphase]; trivial))
    have hfound : (phase i).Found := by rw [hphase]; trivial
    cases hreply : (c.store.serve env (.upsert call.platform call.platformUserID userID)).1 with
    | error e =>
      exact ⟨_, h.advance hcall hrest env (.saved (.error ("link: upsert account: " ++ e))) (by rw [hreply]; rfl)
        (fun _ => trivial) (fun _ => .inl hfound) (fun _ => hgone) (fun p u v _ => trivial)⟩
    | ok _ =>
      exact ⟨_, h.advance hcall hrest env (.saved (.ok userID)) (by rw [hreply]; rfl)
        (fun _ => trivial) (fun _ => .inl hfound) (fun _ => hgone) (fun p u v _ => trivial)⟩

lemma run (h : CodeUsedOnce calls phase c) {schedule : List (ℕ × LinkRequestEnv)}
    (hschedule : Throughout (Config.step LinkStore.serve) Undisturbed c schedule) :
    ∃ phase', CodeUsedOnce calls phase' (c.run LinkStore.serve schedule) := by
  induction schedule generalizing c phase with
  | nil => exact ⟨phase, h⟩
  | cons choice schedule ih =>
    obtain ⟨phase', h'⟩ := h.step hschedule.1
    exact ih h' hschedule.2

lemma oneUse (h : CodeUsedOnce calls phase c) : OneUse calls c where
  succeeds i j callᵢ callⱼ userIDᵢ userIDⱼ hᵢ hⱼ hcode hokᵢ hokⱼ := by
    have hfound : ∀ (i : ℕ) call userID, calls[i]? = some call → c.threads[i]? = some (.done (.ok userID)) → (phase i).Found := by
      intro i call userID hcall hok
      rw [h.threads, hcall, Option.map_some, Option.some_inj] at hok
      cases hphase : phase i with
      | reading => rw [hphase] at hok; cases hok
      | refused message => rw [hphase] at hok; cases hok
      | deleting userID => trivial
      | saving userID => trivial
      | saved reply => trivial
    exact h.found i j callᵢ callⱼ hᵢ hⱼ hcode (hfound i callᵢ userIDᵢ hᵢ hokᵢ) (hfound j callⱼ userIDⱼ hⱼ hokⱼ)
  writes e₁ he₁ e₂ he₂ call₁ call₂ p₁ u₁ v₁ p₂ u₂ v₂ h₁ h₂ hcode hreq₁ hreq₂ :=
    h.found e₁.thread e₂.thread call₁ call₂ h₁ h₂ hcode (h.wrote e₁ he₁ p₁ u₁ v₁ hreq₁) (h.wrote e₂ he₂ p₂ u₂ v₂ hreq₂)

end CodeUsedOnce

/-- In every interleaving whose steps are undisturbed a code is used once, whoever presents it. -/
theorem oneUse_run (s : LinkStore) (calls : List LinkCall) (schedule : List (ℕ × LinkRequestEnv))
    (h : Throughout (Config.step LinkStore.serve) Undisturbed (startLinks s calls) schedule) :
    OneUse calls ((startLinks s calls).run LinkStore.serve schedule) := by
  obtain ⟨phase, hphase⟩ := (CodeUsedOnce.start s calls).run h
  exact hphase.oneUse

namespace Sample

/-- A code issued to one user and presented from two platform accounts. -/
def issuedCode : LinkStore := ⟨(∅ : GoMap RedisEntry).insert "bot:link:AAAAAA" ⟨"user-1", linkCodeTTL⟩, []⟩

def presentedTwice : List LinkCall := [⟨"telegram", "4711", "AAAAAA"⟩, ⟨"discord", "4712", "AAAAAA"⟩]

def inTurn (threads : List ℕ) : List (ℕ × LinkRequestEnv) := threads.map fun i => (i, ⟨0, 0, none⟩)

end Sample

open Sample

theorem oneUse_inTurn :
    Throughout (Config.step LinkStore.serve) Undisturbed (startLinks issuedCode presentedTwice) (inTurn [0, 0, 1, 0, 1]) ∧
      OneUse presentedTwice ((startLinks issuedCode presentedTwice).run LinkStore.serve (inTurn [0, 0, 1, 0, 1])) :=
  ⟨by decide, oneUse_run issuedCode presentedTwice _ (by decide)⟩

/-- Both calls read the code before either deletes it. -/
theorem code_used_twice :
    ¬OneUse presentedTwice ((startLinks issuedCode presentedTwice).run LinkStore.serve (inTurn [0, 1, 0, 1, 0, 1])) := by
  intro h
  have hboth : (0 : ℕ) = 1 := h.succeeds 0 1 _ _ "user-1" "user-1" rfl rfl rfl rfl rfl
  exact absurd hboth (by decide)

end ErgGo.Bot
