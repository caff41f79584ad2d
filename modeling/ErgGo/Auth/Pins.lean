import ErgGo.Lib.Provenance
import ErgGo.Postgres.Models

/-!
# One-time PINs

A PIN is consumed by a transaction that reads an unused row and then marks it used where it
is still unused. The number of rows the update has changed is not looked at, so two
transactions that have both read the row before either marks it both accept the PIN.
-/

namespace ErgGo.Auth
open Go Documents Concurrent Program Lms Postgres

def normalizeEmail [Library] (email : String) : String := trimSpace (toLower email)

inductive PinError where
  | pinNotFound
  | pinExpired
  | pinAlreadyUsed
  deriving DecidableEq

inductive PinRequest where
  | now
  | firstUnused (email code purpose : String) (now : Time)
  | markUsed (id : ObjectID) (now : Time)
  | first (email code purpose : String)

abbrev PinReply : PinRequest → Type
  | .now => Time
  | .firstUnused .. => Option AuthPin
  | .markUsed .. => ℕ
  | .first .. => Option AuthPin

/-- `First` orders by the primary key. -/
def firstPin (pins : Collection AuthPin.id) (p : AuthPin → Bool) : Option AuthPin :=
  ((pins.docs.filter p).insertionSort (fun a b => a.id.hex ≤ b.id.hex)).head?

def matchesPin [Library] (email code purpose : String) (pin : AuthPin) : Bool :=
  pin.email = normalizeEmail email && pin.code = code && pin.purpose = purpose

def firstUnusedPin [Library] (db : Database) (email code purpose : String) (now : Time) : Option AuthPin :=
  firstPin db.pins (fun pin => matchesPin email code purpose pin && pin.usedAt.isNone && pin.expiresAt > now)

/-- `id = ? AND used_at IS NULL`. -/
def unusedPin (id : ObjectID) (pin : AuthPin) : Bool := pin.id = id && pin.usedAt.isNone

def setUsedAt (now : Time) : Update AuthPin.id := ⟨fun pin => { pin with usedAt := some now }, fun _ => rfl⟩

/-- Under read committed a row is read as last committed, and an update tests its condition
on the latest version of the row. The update takes effect when its transaction commits. -/
def pinExec [Library] (now : Time) (q : PinRequest) (db : Database) : PinReply q × Database :=
  match q with
  | .now => (now, db)
  | .firstUnused email code purpose t => (firstUnusedPin db email code purpose t, db)
  | .markUsed id t => (if (db.pins.find (unusedPin id)).isSome then 1 else 0,
      { db with pins := db.pins.updateOne (unusedPin id) (setUsedAt t) })
  | .first email code purpose => (firstPin db.pins (matchesPin email code purpose), db)

abbrev PinProgram := Program PinRequest PinReply

def query (q : PinRequest) : PinProgram (PinReply q) := .send q

namespace Repo

def pinLookupFailure (email code purpose : String) : PinProgram (Except PinError AuthPin) := do
  match ← query (.first email code purpose) with
  | none => return .error .pinNotFound
  | some existing =>
    if existing.usedAt.isSome then return .error .pinAlreadyUsed
    else
      let now ← query .now
      if now > existing.expiresAt then return .error .pinExpired else return .error .pinNotFound

def validateAndConsumePin (email code purpose : String) : PinProgram (Except PinError AuthPin) := do
  let t ← query .now
  match ← query (.firstUnused email code purpose t) with
  | none => pinLookupFailure email code purpose
  | some pin =>
    let now ← query .now
    -- The number of rows is the driver's result that the code drops.
    let _ ← query (.markUsed pin.id now)
    return .ok { pin with usedAt := some now }

end Repo

lemma lookup_markUsed (db : Database) (id id' : ObjectID) (now : Time) :
    (db.pins.updateOne (unusedPin id) (setUsedAt now)).lookup id' =
      (db.pins.lookup id').map (fun pin => if id' = id ∧ unusedPin id pin then { pin with usedAt := some now } else pin) := by
  refine Collection.lookup_updateOne (fun pin hpin => ?_) _ id'
  unfold unusedPin at hpin
  rw [Bool.and_eq_true, decide_eq_true_eq] at hpin
  exact hpin.1

/-- The e-mail address, code and purpose a call presents. -/
structure PinCall where
  email : String
  code : String
  purpose : String

section PinRuns

variable [Library]

abbrev PinEvent := Event Time PinRequest Database

/-- The unused PIN that the event reads, if it reads one. -/
def found (e : PinEvent) : Option ObjectID :=
  match e.req with
  | .firstUnused email code purpose now => (firstUnusedPin e.before email code purpose now).map AuthPin.id
  | _ => none

def Marks (id : ObjectID) (e : PinEvent) : Prop := ∃ now, e.req = .markUsed id now

/-- No call finds a PIN that another call has found and not yet marked. -/
def FoundAlone (h : List PinEvent) : Prop :=
  ∀ h₁ e h₂, h = h₁ ++ e :: h₂ → ∀ id, found e = some id → ∀ d ∈ h₁, found d = some id → d.thread ≠ e.thread →
    ∃ m ∈ h₁, m.thread = d.thread ∧ Marks id m

/-- Every PIN is accepted by at most one call. -/
def AcceptedOnce (c : Config Time PinRequest PinReply Database (Except PinError AuthPin)) : Prop :=
  ∀ (i j : Nat) (pin pin' : AuthPin), c.threads[i]? = some (.done (.ok pin)) → c.threads[j]? = some (.done (.ok pin')) →
    pin.id = pin'.id → i = j

/-- The calls, interleaved. -/
abbrev pinRun (db : Database) (calls : List PinCall) (schedule : List (Nat × Time)) :
    Config Time PinRequest PinReply Database (Except PinError AuthPin) :=
  (start db (calls.map (fun call => Repo.validateAndConsumePin call.email call.code call.purpose))).run
    pinExec schedule

/-- The row is not there as an unused one. -/
def Used (id : ObjectID) (db : Database) : Prop := ∀ pin, db.pins.lookup id = some pin → pin.usedAt.isSome

lemma found_unused {e : PinEvent} {id : ObjectID} (h : found e = some id) : ¬Used id e.before := by
  unfold found at h
  split at h
  · next email code purpose now _ =>
    obtain ⟨pin, hfirst, rfl⟩ := Option.map_eq_some_iff.mp h
    have hmem := List.mem_of_mem_head? hfirst
    rw [List.mem_insertionSort, List.mem_filter] at hmem
    simp only [Bool.and_eq_true, decide_eq_true_eq] at hmem
    intro hused
    have hsome := hused pin (Collection.lookup_eq_some_iff.mpr ⟨hmem.1, rfl⟩)
    rw [Option.isNone_iff_eq_none] at hmem
    rw [hmem.2.1.2] at hsome
    cases hsome
  · cases h

/-- A used PIN stays used. -/
lemma Used.exec {id : ObjectID} {db : Database} (h : Used id db) (t : Time) (q : PinRequest) :
    Used id (pinExec t q db).2 := by
  cases q with
  | markUsed id' now =>
    intro pin hpin
    change (db.pins.updateOne (unusedPin id') (setUsedAt now)).lookup id = some pin at hpin
    rw [lookup_markUsed] at hpin
    obtain ⟨stored, hstored, rfl⟩ := Option.map_eq_some_iff.mp hpin
    split
    · rfl
    · exact h stored hstored
  | _ => exact h

lemma used_markUsed (id : ObjectID) (t now : Time) (db : Database) :
    Used id (pinExec t (.markUsed id now) db).2 := by
  intro pin hpin
  change (db.pins.updateOne (unusedPin id) (setUsedAt now)).lookup id = some pin at hpin
  rw [lookup_markUsed] at hpin
  obtain ⟨stored, hstored, rfl⟩ := Option.map_eq_some_iff.mp hpin
  split
  · rfl
  · next hnot =>
    have hid := Collection.key_of_lookup hstored
    by_contra hnone
    rw [Bool.not_eq_true, Option.isSome_eq_false_iff] at hnone
    exact hnot ⟨rfl, by simp [unusedPin, hid, hnone]⟩

lemma pinRun_used {db : Database} {calls : List PinCall} {schedule : List (Nat × Time)} {id : ObjectID}
    {h₁ h₂ : List PinEvent} {e m : PinEvent} (hsplit : (pinRun db calls schedule).history = h₁ ++ e :: h₂)
    (hm : m ∈ h₁) (hmarks : Marks id m) : Used id e.before := by
  have hreplays : Replays pinExec db (pinRun db calls schedule).history (pinRun db calls schedule).store :=
    run_replays db _ schedule
  obtain ⟨g₁, g₂, rfl⟩ := List.append_of_mem hm
  rw [hsplit] at hreplays
  obtain ⟨s₁, hreplays, rfl, -⟩ := replays_append.mp hreplays
  obtain ⟨s₀, -, -, hreplays⟩ := replays_append.mp hreplays
  refine hreplays.preserves (I := Used id) ?_ (fun d _ hd => hd.exec d.env d.req)
  obtain ⟨now, hreq⟩ := hmarks
  unfold Event.after
  rw [hreq]
  exact used_markUsed id m.env now m.before

section Safe

attribute [local irreducible] firstUnusedPin matchesPin

variable {i : Nat} {w : World Time PinRequest Database}

/-- Calls whose requests are all allowed, in any store. -/
abbrev anyPins : Protocol Time PinRequest Database := provenance (fun _ => True) (fun _ _ => True)

lemma safe_query {q : PinRequest} {post : PinReply q → World Time PinRequest Database → Prop}
    (hpost : ∀ h now db, post (pinExec now q db).1 ((pinExec now q db).2, h ++ [⟨i, now, q, db⟩])) :
    anyPins.Safe pinExec i post (query q) w :=
  safe_send (fun _ _ _ => trivial) (fun _ _ _ _ _ => trivial) (fun h now db _ _ => hpost h now db)

lemma safe_pinLookupFailure {post : AuthPin → World Time PinRequest Database → Prop} (email code purpose : String) :
    anyPins.Safe pinExec i (OnSuccess post) (Repo.pinLookupFailure email code purpose) w := by
  have hfirst : anyPins.Safe pinExec i (fun _ _ => True) (query (.first email code purpose)) w :=
    safe_query (fun _ _ _ => trivial)
  refine hfirst.bind fun existing w₁ _ _ => ?_
  cases existing with
  | none => trivial
  | some existing =>
    by_cases hused : existing.usedAt.isSome
    · simp only [hused]
      trivial
    · simp only [hused]
      have hnow : anyPins.Safe pinExec i (fun _ _ => True) (query .now) w₁ := safe_query (fun _ _ _ => trivial)
      refine hnow.bind fun now w₂ _ _ => ?_
      split <;> trivial

/-- An accepted PIN has been found by the call. -/
lemma safe_validateAndConsumePin (email code purpose : String) :
    anyPins.Safe pinExec i (OnSuccess (fun pin w' => ∃ e ∈ w'.2, e.thread = i ∧ found e = some pin.id))
      (Repo.validateAndConsumePin email code purpose) w := by
  have hnow : ∀ w, anyPins.Safe pinExec i (fun _ _ => True) (query .now) w :=
    fun w => safe_query (fun _ _ _ => trivial)
  refine (hnow w).bind fun t w₁ _ _ => ?_
  have hfirst : anyPins.Safe pinExec i (fun (pin : Option AuthPin) w' => ∀ p, pin = some p →
      ∃ e ∈ w'.2, e.thread = i ∧ found e = some p.id) (query (.firstUnused email code purpose t)) w₁ := by
    refine safe_query fun h now db p hp => ⟨_, List.mem_append_right h (List.mem_singleton.mpr rfl), rfl, ?_⟩
    exact congrArg (Option.map AuthPin.id) hp
  refine hfirst.bind fun pin w₂ _ hfound => ?_
  cases pin with
  | none => exact safe_pinLookupFailure email code purpose
  | some pin =>
    obtain ⟨e, he, hthread, hpin⟩ := hfound pin rfl
    refine (hnow w₂).bind fun now w₃ h₂₃ _ => ?_
    have hmark : anyPins.Safe pinExec i (fun _ _ => True) (query (.markUsed pin.id now)) w₃ :=
      safe_query (fun _ _ _ => trivial)
    refine hmark.bind fun _ w₄ h₃₄ _ => ?_
    exact ⟨e, (h₂₃.trans h₃₄).subset he, hthread, hpin⟩

end Safe

lemma found_of_accepted {db : Database} {calls : List PinCall} {schedule : List (Nat × Time)} {i : Nat}
    {pin : AuthPin} (h : (pinRun db calls schedule).threads[i]? = some (.done (.ok pin))) :
    ∃ e ∈ (pinRun db calls schedule).history, e.thread = i ∧ found e = some pin.id := by
  obtain ⟨-, -, hresults⟩ := provenance_run pinExec (fun _ => True) (fun _ _ => True)
    (fun i => OnSuccess (fun pin w => ∃ e ∈ w.2, e.thread = i ∧ found e = some pin.id)) db
    (calls.map (fun call => Repo.validateAndConsumePin call.email call.code call.purpose)) trivial (by
      intro i p hp
      rw [List.getElem?_map, Option.map_eq_some_iff] at hp
      obtain ⟨call, -, rfl⟩ := hp
      exact safe_validateAndConsumePin call.email call.code call.purpose) schedule
  obtain ⟨w, hextends, e, he, hthread, hfound⟩ := hresults i _ h
  exact ⟨e, hextends.subset he, hthread, hfound⟩

/-- In an interleaving in which no call finds a PIN between another call's finding it and
marking it, every PIN is accepted by at most one call. -/
theorem acceptedOnce_of_foundAlone {db : Database} {calls : List PinCall} {schedule : List (Nat × Time)}
    (halone : FoundAlone (pinRun db calls schedule).history) : AcceptedOnce (pinRun db calls schedule) := by
  intro i j pin pin' hi hj hid
  obtain ⟨d, hd, rfl, hfound⟩ := found_of_accepted hi
  obtain ⟨e, he, rfl, hfound'⟩ := found_of_accepted hj
  rw [← hid] at hfound'
  -- Of two findings of one PIN the later one comes after a mark, where the PIN is used.
  have hlater : ∀ d e, found d = some pin.id → found e = some pin.id →
      ∀ h₁ h₂, (pinRun db calls schedule).history = h₁ ++ e :: h₂ → d ∈ h₁ → d.thread = e.thread := by
    intro d e hd he h₁ h₂ hsplit hbefore
    by_contra hne
    obtain ⟨m, hm, -, hmarks⟩ := halone h₁ e h₂ hsplit pin.id he d hbefore hd hne
    exact found_unused he (pinRun_used hsplit hm hmarks)
  obtain ⟨h₁, h₂, hsplit⟩ := List.append_of_mem he
  rw [hsplit] at hd
  obtain hd | hd := List.mem_append.mp hd
  · exact hlater d e hfound hfound' h₁ h₂ hsplit hd
  · obtain rfl | hd := List.mem_cons.mp hd
    · rfl
    · obtain ⟨g₁, g₂, rfl⟩ := List.append_of_mem hd
      have hsplit' : (pinRun db calls schedule).history = (h₁ ++ e :: g₁) ++ d :: g₂ := by
        rw [hsplit, List.append_assoc, List.cons_append]
      exact (hlater e d hfound' hfound _ g₂ hsplit' (by simp)).symm

end PinRuns

section Sample

attribute [local instance] asciiLibrary

namespace Sample

def pin : AuthPin :=
  { id := Sample.id 1, email := "an@erg.vn", code := "123456", purpose := "forgot_password", expiresAt := 900 }

def onePin : Database := { Database.empty with pins := ⟨[pin], by simp⟩ }

/-- Two calls that present the same PIN. -/
def twoCalls : List PinCall :=
  [⟨"an@erg.vn", "123456", "forgot_password"⟩, ⟨"an@erg.vn", "123456", "forgot_password"⟩]

def schedule (threads : List Nat) : List (Nat × Time) := threads.map (fun i => (i, 60))

end Sample

theorem acceptedOnce_sequential : AcceptedOnce (pinRun Sample.onePin Sample.twoCalls
    (Sample.schedule [0, 0, 0, 0, 1, 1, 1])) := by
  refine acceptedOnce_of_foundAlone ?_
  generalize hrun : pinRun Sample.onePin Sample.twoCalls (Sample.schedule [0, 0, 0, 0, 1, 1, 1]) = c
  have hevents : c.history.map (fun e => (e.thread, found e)) = [(0, none), (0, some (Sample.id 1)), (0, none),
      (0, none), (1, none), (1, none), (1, none)] := hrun ▸ rfl
  have hfirst : ∀ e ∈ c.history, ∀ id, found e = some id → e.thread = 0 := by
    intro e he id hfound
    have hmem := List.mem_map_of_mem (f := fun e : PinEvent => (e.thread, found e)) he
    rw [hevents, hfound] at hmem
    simp at hmem
    exact hmem.1
  intro h₁ e h₂ hsplit id he d hd hfound hne
  have hthread := hfirst e (by simp [hsplit]) id he
  have hthread' := hfirst d (by simp [hsplit, hd]) id hfound
  omega

/-- Both find the PIN before either marks it, and both are accepted. -/
theorem pin_accepted_twice : ¬AcceptedOnce (pinRun Sample.onePin Sample.twoCalls
    (Sample.schedule [0, 0, 1, 1, 0, 0, 1, 1])) := by
  intro h
  have hsame := h 0 1 { Sample.pin with usedAt := some 60 } { Sample.pin with usedAt := some 60 } rfl rfl rfl
  omega

end Sample

end ErgGo.Auth
