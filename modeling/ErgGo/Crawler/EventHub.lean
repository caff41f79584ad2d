import ErgGo.Lib.Channel
import ErgGo.Lib.GoRuntime
import ErgGo.Lib.Interleaving
import Mathlib.Data.List.DropRight

/-!
# The hub of server-sent events

The hub keeps one channel for each job under a lock. A broadcast looks the channel up under
the lock and sends after it has released it; in between the channel may be closed.
-/

namespace ErgGo.Crawler
open Go Concurrent

structure SSEProgressEvent where
  type : String
  jobID : String
  step : ℤ := 0
  message : String
  deriving DecidableEq

/-- Every channel ever made, by its number, and the numbers of the registered ones. -/
structure SSEHub where
  clients : GoMap ℕ := ∅
  channels : List (Channel SSEProgressEvent) := []
  drained : Bool := false

def closedIn (channels : List (Channel SSEProgressEvent)) (ch : ℕ) : Bool := (channels[ch]?).any (·.closed)

namespace SSEHub

def closedAt (h : SSEHub) (ch : ℕ) : Bool := closedIn h.channels ch

def register (jobID : String) (h : SSEHub) : SSEHub :=
  { h with clients := h.clients.insert jobID h.channels.length, channels := h.channels ++ [{ capacity := 100 }] }

def unregister (jobID : String) (h : SSEHub) : SSEHub :=
  match h.clients.lookup jobID with
  | none => h
  | some ch => { h with clients := h.clients.erase jobID, channels := h.channels.modify ch .close }

def drain (h : SSEHub) : SSEHub :=
  { clients := ∅, channels := h.clients.pairs.foldl (fun channels client => channels.modify client.2 .close) h.channels,
    drained := true }

/-- `select { case ch <- evt: default: }`; on a closed channel the goroutine panics. -/
def offer (ch : ℕ) (evt : SSEProgressEvent) (h : SSEHub) : SSEHub :=
  if h.closedAt ch then h else { h with channels := h.channels.modify ch (·.offer evt) }

end SSEHub

/-- What happens at once: a section under the lock, or a send. -/
inductive HubRequest where
  | register (jobID : String)
  | unregister (jobID : String)
  | drain
  | lookup (jobID : String)
  | offer (ch : ℕ) (evt : SSEProgressEvent)

abbrev HubReply : HubRequest → Type
  | .register _ => ℕ
  | .unregister _ => Unit
  | .drain => Unit
  | .lookup _ => Option ℕ
  | .offer .. => Unit

def hubExec (_ : Unit) (q : HubRequest) (h : SSEHub) : HubReply q × SSEHub :=
  match q with
  | .register jobID => (h.channels.length, h.register jobID)
  | .unregister jobID => ((), h.unregister jobID)
  | .drain => ((), h.drain)
  | .lookup jobID => (h.clients.lookup jobID, h)
  | .offer ch evt => ((), h.offer ch evt)

abbrev HubProgram := Program HubRequest HubReply

inductive HubCall where
  | register (jobID : String)
  | unregister (jobID : String)
  | drain
  | broadcast (jobID : String) (step : ℤ) (message : String) (done : Bool)
  | emitTerminalEvent (jobID eventType message : String)

/-- The send after the look-up. -/
def sendTo (evt : SSEProgressEvent) (ch : Option ℕ) : HubProgram Unit :=
  match ch with
  | none => .done ()
  | some ch => .request (.offer ch evt) .done

def broadcast (jobID : String) (step : ℤ) (message : String) (done : Bool) : HubProgram Unit :=
  let evt : SSEProgressEvent := { type := if done then "done" else "progress", jobID, step, message }
  .request (.lookup jobID) (sendTo evt)

def emitTerminalEvent (jobID eventType message : String) : HubProgram Unit :=
  .request (.lookup jobID) (sendTo { type := eventType, jobID, message })

def HubCall.program : HubCall → HubProgram Unit
  | .register jobID => .request (.register jobID) (fun _ => .done ())
  | .unregister jobID => .request (.unregister jobID) .done
  | .drain => .request .drain .done
  | .broadcast jobID step message done => Crawler.broadcast jobID step message done
  | .emitTerminalEvent jobID eventType message => Crawler.emitTerminalEvent jobID eventType message

abbrev HubEvent := Event Unit HubRequest SSEHub
abbrev HubConfig := Config Unit HubRequest HubReply SSEHub Unit

/-- The calls, interleaved, on a new hub. -/
abbrev hubRun (calls : List HubCall) (schedule : List (ℕ × Unit)) : HubConfig :=
  (start {} (calls.map HubCall.program)).run hubExec schedule

/-- No channel that the request sends to is closed, and none that it closes, which are distinct. -/
def NoPanic (e : HubEvent) : Prop :=
  match e.req with
  | .offer ch _ => e.before.closedAt ch = false
  | .unregister jobID => ∀ ch ∈ e.before.clients.lookup jobID, e.before.closedAt ch = false
  | .drain => (e.before.clients.pairs.map Prod.snd).Nodup ∧ ∀ client ∈ e.before.clients.pairs, e.before.closedAt client.2 = false
  | .register _ | .lookup _ => True

def Drained (c : HubConfig) : Prop := ∃ e ∈ c.history, e.req = .drain

/-- No send or close has panicked, and a drained hub has no clients. -/
structure HubSafe (c : HubConfig) : Prop where
  noPanic : ∀ e ∈ c.history, NoPanic e
  drained : Drained c → c.store.clients = ∅

/-- The request closes the channel. -/
def Closes (ch : ℕ) (e : HubEvent) : Prop :=
  match e.req with
  | .unregister jobID => e.before.clients.lookup jobID = some ch
  | .drain => ∃ jobID, e.before.clients.lookup jobID = some ch
  | .register _ | .lookup _ | .offer .. => False

def looksUp (i : ℕ) (e : HubEvent) : Bool :=
  match e.req with
  | .lookup _ => e.thread = i
  | _ => false

/-- What has happened since the look-up of thread `i`. -/
def sinceLookup (history : List HubEvent) (i : ℕ) : List HubEvent := history.rtakeWhile (fun e => !looksUp i e)

/-- The next request of the thread is to send to a channel that has been closed since its
look-up, or to register with a hub that has been drained. -/
def Collides (c : HubConfig) (i : ℕ) : Prop :=
  (∃ ch evt k, c.threads[i]? = some (.request (.offer ch evt) k) ∧ ∃ e ∈ sinceLookup c.history i, Closes ch e) ∨
    ∃ jobID k, c.threads[i]? = some (.request (.register jobID) k) ∧ Drained c

/-! ## Channels -/

lemma closedIn_modify_close (channels : List (Channel SSEProgressEvent)) (i ch : ℕ) :
    closedIn (channels.modify i .close) ch ↔ closedIn channels ch ∨ i = ch ∧ ch < channels.length := by
  unfold closedIn
  rw [List.getElem?_modify]
  by_cases hch : ch < channels.length
  · rw [List.getElem?_eq_getElem hch]
    by_cases hi : i = ch
    · simp [hi, hch, Channel.close]
    · simp [hi]
  · rw [List.getElem?_eq_none (not_lt.mp hch)]
    simp [hch]

lemma closedIn_modify_offer (channels : List (Channel SSEProgressEvent)) (i ch : ℕ) (evt : SSEProgressEvent) :
    closedIn (channels.modify i (·.offer evt)) ch = closedIn channels ch := by
  unfold closedIn
  rw [List.getElem?_modify]
  cases channels[ch]? with
  | none => rfl
  | some c =>
    by_cases hi : i = ch
    · simp [hi]
    · simp [hi]

lemma closedIn_append (channels : List (Channel SSEProgressEvent)) (ch : ℕ) :
    closedIn (channels ++ [{ capacity := 100 }]) ch = closedIn channels ch := by
  unfold closedIn
  rw [List.getElem?_append]
  by_cases hch : ch < channels.length
  · rw [if_pos hch]
  · rw [if_neg hch, List.getElem?_eq_none (not_lt.mp hch)]
    cases ch - channels.length with
    | zero => rfl
    | succ n => rfl

/-- Closing channels one after another. -/
lemma closedIn_foldl_close (clients : List (String × ℕ)) (channels : List (Channel SSEProgressEvent)) (ch : ℕ) :
    closedIn (clients.foldl (fun channels client => channels.modify client.2 .close) channels) ch ↔
      closedIn channels ch ∨ (∃ client ∈ clients, client.2 = ch) ∧ ch < channels.length := by
  induction clients generalizing channels with
  | nil => simp
  | cons client clients ih =>
    rw [List.foldl_cons, ih, closedIn_modify_close, List.length_modify, List.exists_mem_cons_iff]
    tauto

lemma mem_pairs {clients : GoMap ℕ} {client : String × ℕ} : client ∈ clients.pairs ↔ clients.lookup client.1 = some client.2 := by
  rw [← Option.mem_def, AList.mem_lookup_iff, GoMap.pairs, List.mem_map]
  constructor
  · rintro ⟨entry, hentry, rfl⟩
    exact hentry
  · exact fun hentry => ⟨_, hentry, rfl⟩

/-! ## The hub -/

/-- Registered channels exist, are open and belong to one job each. -/
structure HubInv (h : SSEHub) : Prop where
  registered : ∀ jobID ch, h.clients.lookup jobID = some ch → ch < h.channels.length ∧ h.closedAt ch = false
  distinct : ∀ jobID jobID' ch, h.clients.lookup jobID = some ch → h.clients.lookup jobID' = some ch → jobID = jobID'

/-- What one request does to a channel. -/
lemma closedAt_hubExec {h : SSEHub} (hinv : HubInv h) (thread : ℕ) (q : HubRequest) (ch : ℕ) :
    (hubExec () q h).2.closedAt ch ↔ h.closedAt ch ∨ Closes ch ⟨thread, (), q, h⟩ := by
  cases q with
  | register jobID =>
    simp only [hubExec, SSEHub.register, SSEHub.closedAt, closedIn_append, Closes, or_false]
  | unregister jobID =>
    simp only [hubExec, SSEHub.unregister, Closes]
    cases hlookup : h.clients.lookup jobID with
    | none => simp
    | some ch' =>
      have hexists := (hinv.registered jobID ch' hlookup).1
      simp only [SSEHub.closedAt, closedIn_modify_close, Option.some.injEq]
      constructor
      · rintro (hclosed | ⟨hsame, -⟩)
        · exact .inl hclosed
        · exact .inr hsame
      · rintro (hclosed | rfl)
        · exact .inl hclosed
        · exact .inr ⟨rfl, hexists⟩
  | drain =>
    simp only [hubExec, SSEHub.drain, SSEHub.closedAt, closedIn_foldl_close, Closes]
    constructor
    · rintro (hclosed | ⟨⟨client, hclient, rfl⟩, -⟩)
      · exact .inl hclosed
      · exact .inr ⟨client.1, mem_pairs.mp hclient⟩
    · rintro (hclosed | ⟨jobID, hlookup⟩)
      · exact .inl hclosed
      · exact .inr ⟨⟨(jobID, ch), mem_pairs.mpr hlookup, rfl⟩, (hinv.registered jobID ch hlookup).1⟩
  | lookup jobID => simp [hubExec, Closes]
  | offer ch' evt =>
    simp only [hubExec, SSEHub.offer, Closes, or_false]
    split
    · rfl
    · simp only [SSEHub.closedAt, closedIn_modify_offer]

lemma length_channels_hubExec (q : HubRequest) (h : SSEHub) : h.channels.length ≤ (hubExec () q h).2.channels.length := by
  cases q with
  | register jobID => simp [hubExec, SSEHub.register]
  | unregister jobID =>
    simp only [hubExec, SSEHub.unregister]
    cases h.clients.lookup jobID with
    | none => exact le_rfl
    | some ch => simp
  | drain =>
    have hfold : ∀ (clients : List (String × ℕ)) (channels : List (Channel SSEProgressEvent)),
        (clients.foldl (fun channels client => channels.modify client.2 .close) channels).length = channels.length := by
      intro clients
      induction clients with
      | nil => exact fun _ => rfl
      | cons client clients ih => exact fun channels => (ih _).trans (List.length_modify _ _ _)
    exact (hfold _ _).ge
  | lookup jobID => exact le_rfl
  | offer ch evt =>
    simp only [hubExec, SSEHub.offer]
    split
    · exact le_rfl
    · simp

/-- A request other than a registration registers nothing, and closes no channel that stays. -/
lemma lookup_hubExec {h : SSEHub} (hinv : HubInv h) (thread : ℕ) {q : HubRequest} (hq : ∀ jobID, q ≠ .register jobID)
    {jobID : String} {ch : ℕ} (hlookup : (hubExec () q h).2.clients.lookup jobID = some ch) :
    h.clients.lookup jobID = some ch ∧ ¬Closes ch ⟨thread, (), q, h⟩ := by
  cases q with
  | register jobID' => exact absurd rfl (hq jobID')
  | unregister jobID' =>
    simp only [hubExec, SSEHub.unregister] at hlookup
    cases hclient : h.clients.lookup jobID' with
    | none =>
      rw [hclient] at hlookup
      refine ⟨hlookup, fun hcloses => ?_⟩
      cases hclient.symm.trans hcloses
    | some ch' =>
      rw [hclient] at hlookup
      dsimp only at hlookup
      by_cases hjob : jobID = jobID'
      · rw [hjob, AList.lookup_erase] at hlookup
        cases hlookup
      · rw [AList.lookup_erase_ne hjob] at hlookup
        exact ⟨hlookup, fun hcloses => hjob (hinv.distinct _ _ ch hlookup hcloses)⟩
  | drain => cases hlookup
  | lookup jobID' => exact ⟨hlookup, id⟩
  | offer ch' evt =>
    have hclients : (hubExec () (.offer ch' evt) h).2.clients = h.clients := by
      simp only [hubExec, SSEHub.offer]
      split
      · rfl
      · rfl
    rw [hclients] at hlookup
    exact ⟨hlookup, id⟩

lemma HubInv.step {h : SSEHub} (hinv : HubInv h) (q : HubRequest) : HubInv (hubExec () q h).2 := by
  by_cases hq : ∀ jobID, q ≠ .register jobID
  · constructor
    · intro jobID ch hlookup
      obtain ⟨hlookup, hcloses⟩ := lookup_hubExec hinv 0 hq hlookup
      obtain ⟨hexists, hopen⟩ := hinv.registered jobID ch hlookup
      refine ⟨hexists.trans_le (length_channels_hubExec q h), ?_⟩
      rw [Bool.eq_false_iff, ne_eq, closedAt_hubExec hinv 0 q ch, hopen]
      simpa using hcloses
    · intro jobID jobID' ch hlookup hlookup'
      exact hinv.distinct _ _ ch (lookup_hubExec hinv 0 hq hlookup).1 (lookup_hubExec hinv 0 hq hlookup').1
  · rw [not_forall_not] at hq
    obtain ⟨jobID, rfl⟩ := hq
    have hnew : ∀ jobID' ch, (hubExec () (.register jobID) h).2.clients.lookup jobID' = some ch →
        jobID' = jobID ∧ ch = h.channels.length ∨ jobID' ≠ jobID ∧ h.clients.lookup jobID' = some ch := by
      intro jobID' ch hlookup
      simp only [hubExec, SSEHub.register] at hlookup
      by_cases hjob : jobID' = jobID
      · rw [hjob, AList.lookup_insert] at hlookup
        exact .inl ⟨hjob, (Option.some.inj hlookup).symm⟩
      · rw [AList.lookup_insert_ne hjob] at hlookup
        exact .inr ⟨hjob, hlookup⟩
    have hlength : (hubExec () (.register jobID) h).2.channels.length = h.channels.length + 1 := by
      simp [hubExec, SSEHub.register]
    constructor
    · intro jobID' ch hlookup
      have hclosed : (hubExec () (.register jobID) h).2.closedAt ch = h.closedAt ch := closedIn_append h.channels ch
      rw [hlength, hclosed]
      obtain ⟨-, rfl⟩ | ⟨-, hold⟩ := hnew jobID' ch hlookup
      · refine ⟨Nat.lt_succ_self _, ?_⟩
        simp [SSEHub.closedAt, closedIn]
      · obtain ⟨hexists, hopen⟩ := hinv.registered jobID' ch hold
        exact ⟨Nat.lt_succ_of_lt hexists, hopen⟩
    · intro j j' ch hlookup hlookup'
      obtain ⟨rfl, rfl⟩ | ⟨-, hold⟩ := hnew j ch hlookup
      · obtain ⟨rfl, -⟩ | ⟨-, hold'⟩ := hnew j' _ hlookup'
        · rfl
        · exact absurd (hinv.registered j' _ hold').1 (lt_irrefl _)
      · obtain ⟨-, rfl⟩ | ⟨-, hold'⟩ := hnew j' ch hlookup'
        · exact absurd (hinv.registered j _ hold).1 (lt_irrefl _)
        · exact hinv.distinct j j' ch hold hold'

/-- Closing never panics: what is registered is open, and distinct. -/
lemma HubInv.noPanic {h : SSEHub} (hinv : HubInv h) (thread : ℕ) {q : HubRequest} (hq : ∀ ch evt, q ≠ .offer ch evt) :
    NoPanic ⟨thread, (), q, h⟩ := by
  cases q with
  | register jobID => trivial
  | lookup jobID => trivial
  | offer ch evt => exact absurd rfl (hq ch evt)
  | unregister jobID => exact fun ch hlookup => (hinv.registered jobID ch hlookup).2
  | drain =>
    refine ⟨?_, fun client hclient => (hinv.registered _ _ (mem_pairs.mp hclient)).2⟩
    have hpairs : h.clients.pairs.Nodup := by
      refine h.clients.nodupKeys.nodup.map ?_
      rintro ⟨job, ch⟩ ⟨job', ch'⟩ hsame
      cases hsame
      rfl
    refine hpairs.map_on ?_
    intro client hclient client' hclient' hsame
    have hlookup := mem_pairs.mp hclient
    rw [hsame] at hlookup
    exact Prod.ext (hinv.distinct _ _ _ hlookup (mem_pairs.mp hclient')) hsame

/-! ## Threads -/

/-- Where thread `i` stands: before its only step, before its look-up, or before the send to a
channel that is closed exactly if a step since the look-up has closed it. -/
def ThreadInv (c : HubConfig) (i : ℕ) : HubProgram Unit → Prop
  | .done _ => True
  | .request (.offer ch _) k => k = .done ∧ (c.store.closedAt ch ↔ ∃ e ∈ sinceLookup c.history i, Closes ch e)
  | .request (.lookup _) k => ∃ evt, k = sendTo evt
  | .request (.register _) k => k = fun _ => .done ()
  | .request (.unregister _) k => k = .done
  | .request .drain k => k = .done

structure HubConfigInv (c : HubConfig) : Prop where
  hub : HubInv c.store
  threads : ∀ i p, c.threads[i]? = some p → ThreadInv c i p

section Step

variable {c : HubConfig} {i : ℕ} {q : HubRequest} {k : HubReply q → HubProgram Unit}

/-- The configuration after thread `i` has sent `q`. -/
def hubStepped (c : HubConfig) (i : ℕ) (q : HubRequest) (k : HubReply q → HubProgram Unit) : HubConfig :=
  ⟨(hubExec () q c.store).2, c.threads.set i (k (hubExec () q c.store).1), c.history ++ [⟨i, (), q, c.store⟩]⟩

/-- Another thread's step is since the look-up. -/
lemma sinceLookup_other {j : ℕ} (hij : i ≠ j) (history : List HubEvent) (q : HubRequest) (s : SSEHub) :
    sinceLookup (history ++ [⟨i, (), q, s⟩]) j = sinceLookup history j ++ [⟨i, (), q, s⟩] := by
  have hother : looksUp j ⟨i, (), q, s⟩ = false := by
    unfold looksUp
    cases q with
    | lookup jobID => exact decide_eq_false hij
    | _ => rfl
  unfold sinceLookup
  rw [List.rtakeWhile_concat_pos]
  simp [hother]

lemma sinceLookup_own (history : List HubEvent) (jobID : String) (s : SSEHub) :
    sinceLookup (history ++ [⟨i, (), .lookup jobID, s⟩]) i = [] := by
  unfold sinceLookup
  rw [List.rtakeWhile_concat_neg]
  simp [looksUp]

lemma ThreadInv.other (hinv : HubInv c.store) {j : ℕ} (hij : i ≠ j) {p : HubProgram Unit} (hp : ThreadInv c j p) :
    ThreadInv (hubStepped c i q k) j p := by
  cases p with
  | done a => trivial
  | request q' k' =>
    cases q' with
    | offer ch evt =>
      refine ⟨hp.1, ?_⟩
      rw [hubStepped, closedAt_hubExec hinv i q ch, sinceLookup_other hij]
      simp only [List.mem_append, List.mem_singleton]
      constructor
      · rintro (hclosed | hcloses)
        · obtain ⟨e, he, hcloses⟩ := hp.2.mp hclosed
          exact ⟨e, .inl he, hcloses⟩
        · exact ⟨_, .inr rfl, hcloses⟩
      · rintro ⟨e, he | rfl, hcloses⟩
        · exact .inl (hp.2.mpr ⟨e, he, hcloses⟩)
        · exact .inr hcloses
    | _ => exact hp

lemma ThreadInv.own (hinv : HubInv c.store) (hp : ThreadInv c i (.request q k)) :
    ThreadInv (hubStepped c i q k) i (k (hubExec () q c.store).1) := by
  cases q with
  | offer ch evt =>
    rw [hp.1]
    trivial
  | lookup jobID =>
    obtain ⟨evt, rfl⟩ := hp
    cases hlookup : c.store.clients.lookup jobID with
    | none =>
      have hreply : sendTo evt (hubExec () (.lookup jobID) c.store).1 = .done () := by
        simp only [hubExec, hlookup, sendTo]
      rw [hreply]
      trivial
    | some ch =>
      have hreply : sendTo evt (hubExec () (.lookup jobID) c.store).1 = .request (.offer ch evt) .done := by
        simp only [hubExec, hlookup, sendTo]
      rw [hreply]
      refine ⟨rfl, ?_⟩
      have hopen := (hinv.registered jobID ch hlookup).2
      rw [hubStepped, sinceLookup_own]
      simpa [hubExec] using hopen
  | register jobID =>
    rw [show k = fun _ => .done () from hp]
    trivial
  | unregister jobID =>
    rw [show k = .done from hp]
    trivial
  | drain =>
    rw [show k = .done from hp]
    trivial

lemma HubConfigInv.stepped (hc : HubConfigInv c) (hi : c.threads[i]? = some (.request q k)) :
    HubConfigInv (hubStepped c i q k) where
  hub := hc.hub.step q
  threads j p hj := by
    by_cases hij : i = j
    · subst hij
      have hlt : i < c.threads.length := (List.getElem?_eq_some_iff.mp hi).1
      have hp : p = k (hubExec () q c.store).1 := by
        rw [hubStepped, List.getElem?_set_self hlt] at hj
        exact (Option.some.inj hj).symm
      rw [hp]
      exact (hc.threads i _ hi).own hc.hub
    · rw [hubStepped, List.getElem?_set_ne hij] at hj
      exact (hc.threads j p hj).other hc.hub hij

lemma drained_stepped : Drained (hubStepped c i q k) ↔ Drained c ∨ q = .drain := by
  unfold Drained hubStepped
  simp only [List.mem_append, List.mem_singleton]
  constructor
  · rintro ⟨e, he | rfl, hdrain⟩
    · exact .inl ⟨e, he, hdrain⟩
    · exact .inr hdrain
  · rintro (⟨e, he, hdrain⟩ | rfl)
    · exact ⟨e, .inl he, hdrain⟩
    · exact ⟨_, .inr rfl, rfl⟩

/-- A step panics exactly if it sends to a channel closed since the look-up. -/
lemma noPanic_stepped (hc : HubConfigInv c) (hi : c.threads[i]? = some (.request q k)) : NoPanic ⟨i, (), q, c.store⟩ ↔
    ∀ ch evt, q = .offer ch evt → ¬∃ e ∈ sinceLookup c.history i, Closes ch e := by
  by_cases hoffer : ∀ ch evt, q ≠ .offer ch evt
  · exact iff_of_true (hc.hub.noPanic i hoffer) (fun ch evt hq => absurd hq (hoffer ch evt))
  · obtain ⟨ch, hch⟩ := not_forall.mp hoffer
    obtain ⟨evt, hq⟩ := not_forall_not.mp hch
    subst hq
    have hpending := (hc.threads i _ hi).2
    constructor
    · intro hopen ch' evt' hq hclosed
      cases hq
      have hopen : c.store.closedAt ch = false := hopen
      rw [hpending.mpr hclosed] at hopen
      cases hopen
    · exact fun hnone => Bool.eq_false_iff.mpr (fun hclosed => hnone ch evt rfl (hpending.mp hclosed))

lemma clients_hubExec {h : SSEHub} (hempty : h.clients = ∅) (q : HubRequest) (hq : ∀ jobID, q ≠ .register jobID) :
    (hubExec () q h).2.clients = ∅ := by
  cases q with
  | register jobID => exact absurd rfl (hq jobID)
  | unregister jobID =>
    simp only [hubExec, SSEHub.unregister, hempty, AList.lookup_empty]
  | drain => rfl
  | lookup jobID => exact hempty
  | offer ch evt =>
    simp only [hubExec, SSEHub.offer]
    split
    · exact hempty
    · exact hempty

lemma collides_iff (hi : c.threads[i]? = some (.request q k)) : Collides c i ↔
    (∃ ch evt, q = .offer ch evt ∧ ∃ e ∈ sinceLookup c.history i, Closes ch e) ∨ (∃ jobID, q = .register jobID) ∧ Drained c := by
  unfold Collides
  rw [hi]
  constructor
  · rintro (⟨ch, evt, k', hsame, hcloses⟩ | ⟨jobID, k', hsame, hdrained⟩)
    · cases hsame
      exact .inl ⟨ch, evt, rfl, hcloses⟩
    · cases hsame
      exact .inr ⟨⟨jobID, rfl⟩, hdrained⟩
  · rintro (⟨ch, evt, rfl, hcloses⟩ | ⟨⟨jobID, rfl⟩, hdrained⟩)
    · exact .inl ⟨ch, evt, k, rfl, hcloses⟩
    · exact .inr ⟨jobID, k, rfl, hdrained⟩

lemma hubSafe_stepped (hc : HubConfigInv c) (hsafe : HubSafe c) (hi : c.threads[i]? = some (.request q k)) :
    HubSafe (hubStepped c i q k) ↔ ¬Collides c i := by
  rw [collides_iff hi, not_or]
  constructor
  · intro hafter
    constructor
    · rintro ⟨ch, evt, hq, hcloses⟩
      have hlast : NoPanic ⟨i, (), q, c.store⟩ := hafter.noPanic _ (by simp [hubStepped])
      exact (noPanic_stepped hc hi).mp hlast ch evt hq hcloses
    · rintro ⟨⟨jobID, rfl⟩, hdrained⟩
      have hempty := hafter.drained (drained_stepped.mpr (.inl hdrained))
      have hclient : (hubStepped c i (.register jobID) k).store.clients.lookup jobID = some c.store.channels.length :=
        AList.lookup_insert _
      rw [hempty] at hclient
      cases hclient
  · rintro ⟨hsend, hregister⟩
    constructor
    · intro e he
      obtain he | he := List.mem_append.mp he
      · exact hsafe.noPanic e he
      · rw [List.mem_singleton.mp he]
        exact (noPanic_stepped hc hi).mpr (fun ch evt hq hcloses => hsend ⟨ch, evt, hq, hcloses⟩)
    · intro hdrained
      obtain hdrained | rfl := drained_stepped.mp hdrained
      · exact clients_hubExec (hsafe.drained hdrained) q (fun jobID hq => hregister ⟨⟨jobID, hq⟩, hdrained⟩)
      · rfl

end Step

/-! ## Runs -/

lemma hubConfigInv_hubRun (calls : List HubCall) (schedule : List (ℕ × Unit)) : HubConfigInv (hubRun calls schedule) := by
  refine run_induction (motive := HubConfigInv) hubExec (fun c i env q k hi hc => hc.stepped hi) ?_ schedule
  constructor
  · constructor
    · intro jobID ch hlookup
      cases hlookup
    · intro jobID jobID' ch hlookup
      cases hlookup
  · intro i p hp
    obtain ⟨call, -, rfl⟩ := List.mem_map.mp (List.mem_of_getElem? hp)
    cases call with
    | register jobID => rfl
    | unregister jobID => rfl
    | drain => rfl
    | broadcast jobID step message done => exact ⟨_, rfl⟩
    | emitTerminalEvent jobID eventType message => exact ⟨_, rfl⟩

/-- One step of a run. -/
lemma hubSafe_step {c : HubConfig} (hc : HubConfigInv c) (hsafe : HubSafe c) (choice : ℕ × Unit) :
    HubSafe (c.step hubExec choice) ↔ ¬Collides c choice.1 := by
  unfold Config.step
  split
  · next q k hi => exact hubSafe_stepped hc hsafe hi
  · next hnone =>
    refine iff_of_true hsafe ?_
    rintro (⟨ch, evt, k, hi, -⟩ | ⟨jobID, k, hi, -⟩)
    · exact hnone _ _ hi
    · exact hnone _ _ hi

/-- A run is safe throughout if and only if no thread sends to a channel that was closed since
its look-up and none registers with a drained hub. -/
theorem hubSafe_throughout_iff (calls : List HubCall) (schedule : List (ℕ × Unit)) :
    (∀ done, done <+: schedule → HubSafe (hubRun calls done)) ↔
      ∀ done choice, done ++ [choice] <+: schedule → ¬Collides (hubRun calls done) choice.1 := by
  have hstep : ∀ done choice, hubRun calls (done ++ [choice]) = (hubRun calls done).step hubExec choice :=
    fun done choice => run_append _ done [choice]
  constructor
  · intro hsafe done choice hbegin
    have hbefore := hsafe done ((List.prefix_append done [choice]).trans hbegin)
    have hafter := hsafe (done ++ [choice]) hbegin
    rw [hstep] at hafter
    exact (hubSafe_step (hubConfigInv_hubRun calls done) hbefore choice).mp hafter
  · intro hcollides done hbegin
    induction done using List.reverseRecOn with
    | nil =>
      constructor
      · intro e he
        cases he
      · rintro ⟨e, he, -⟩
        cases he
    | append_singleton done choice ih =>
      have hbefore := ih ((List.prefix_append done [choice]).trans hbegin)
      rw [hstep]
      exact (hubSafe_step (hubConfigInv_hubRun calls done) hbefore choice).mpr (hcollides done choice hbegin)

/-- A client leaves between the look-up and the send of a broadcast to it. -/
theorem send_after_unregister_panics : ¬HubSafe (hubRun [.register "job", .broadcast "job" 1 "Creating crawl record" false,
    .unregister "job"] [(0, ()), (1, ()), (2, ()), (1, ())]) := by
  intro hsafe
  have hclosed : ((hubRun [.register "job", .broadcast "job" 1 "Creating crawl record" false, .unregister "job"]
      [(0, ()), (1, ()), (2, ()), (1, ())]).history.getLast?.map (fun e => e.before.closedAt 0)) = some true := by
    decide
  have hpanics := hsafe.noPanic _ (List.mem_of_getLast? rfl)
  cases hclosed.symm.trans (congrArg some hpanics)

end ErgGo.Crawler
