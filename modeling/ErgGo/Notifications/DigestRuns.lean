import ErgGo.Lib.Runs
import ErgGo.Notifications.DigestSelection

/-!
# Overlapping flushes

Between reading a user's pending notifications and marking them, a flush holds them: first for a
digest to be sent, then for one that was sent and is still to be marked. A notification goes into
one digest where no flush reads what another one holds, where a mail that is delivered is not
reported as failed and where the mark reaches the database.
-/

namespace ErgGo.Notifications
open Go Documents Bson Concurrent Runs
open Lms (ObjectID objectID)

/-- The notifications that the next request of a flush is about. -/
inductive Hold where
  | idle
  | unsent (ids : List ObjectID)
  | sent (ids : List ObjectID)

namespace Hold

def ids : Hold → List ObjectID
  | idle => []
  | unsent ids => ids
  | sent ids => ids

/-- The notifications of a digest that was sent. -/
def sentIDs : Hold → List ObjectID
  | idle => []
  | unsent _ => []
  | sent ids => ids

end Hold

def DigestRequest.hold : DigestRequest → Hold
  | .insertDigest _ included => .unsent included
  | .sendMail mail => .unsent mail.included
  | .updateStatus mail .sent _ => .sent mail.included
  | .markDigested ids _ => .sent ids
  | _ => .idle

abbrev DigestProgram (α : Type) := Program DigestRequest DigestReply α

namespace DigestProgram

variable {α β : Type}

def hold : DigestProgram α → Hold
  | .done _ => .idle
  | .request q _ => q.hold

def next : DigestProgram α → Option DigestRequest
  | .done _ => none
  | .request q _ => some q

end DigestProgram

/-! ## The laws and their condition -/

abbrev FlushConfiguration := Config DigestEnv DigestRequest DigestReply DigestStore Unit

/-- No notification is in two digests that were sent. -/
def DigestStore.OncePerDigest (s : DigestStore) : Prop :=
  s.outbox.Pairwise fun mail₁ mail₂ => ∀ id ∈ mail₁.included, id ∉ mail₂.included

instance (s : DigestStore) : Decidable s.OncePerDigest :=
  inferInstanceAs (Decidable (s.outbox.Pairwise fun mail₁ mail₂ => ∀ id ∈ mail₁.included, id ∉ mail₂.included))

structure DigestLaws (s : DigestStore) : Prop where
  once : s.OncePerDigest
  finds : s.FindsWaiting

/-- A flush reads no notification that another one holds, a mail that is delivered is not reported
as failed, and a mark reaches the database. -/
def DigestRequest.UndisturbedIn (c : FlushConfiguration) (env : DigestEnv) : DigestRequest → Prop
  | .findPendingByUser userID =>
    env.failure = none → ∀ n ∈ c.store.pendingOf userID, ∀ p ∈ c.threads, n.id ∉ (DigestProgram.hold p).ids
  | .sendMail _ => env.failure.all fun failure => !failure.2
  | .markDigested .. => env.failure.all fun failure => failure.2
  | _ => True

def Undisturbed (c : FlushConfiguration) (choice : ℕ × DigestEnv) : Prop :=
  ∀ p ∈ c.threads[choice.1]?, ∀ q ∈ DigestProgram.next p, q.UndisturbedIn c choice.2

instance (c : FlushConfiguration) (env : DigestEnv) : DecidablePred (DigestRequest.UndisturbedIn c env)
  | .findPendingByUser userID => inferInstanceAs (Decidable (env.failure = none → ∀ n ∈ c.store.pendingOf userID,
      ∀ p ∈ c.threads, n.id ∉ (DigestProgram.hold p).ids))
  | .sendMail _ => inferInstanceAs (Decidable (env.failure.all fun failure => !failure.2))
  | .markDigested .. => inferInstanceAs (Decidable (env.failure.all fun failure => failure.2))
  | .countByStatus _ => .isTrue trivial
  | .findByStatus .. => .isTrue trivial
  | .findPreference _ => .isTrue trivial
  | .insertDigest .. => .isTrue trivial
  | .updateStatus .. => .isTrue trivial
  | .markDigestSent _ => .isTrue trivial

instance (c : FlushConfiguration) (choice : ℕ × DigestEnv) : Decidable (Undisturbed c choice) :=
  inferInstanceAs (Decidable (∀ p ∈ c.threads[choice.1]?, ∀ q ∈ DigestProgram.next p, q.UndisturbedIn c choice.2))

section Start

variable [Renderer]

/-- Flushes over stored notifications, before any digest is sent. -/
def startFlushes (notifications : Collection Notification.id) (preferences : List NotificationPreference)
    (digests : Collection Digest.id) (flushes : List Flush) : FlushConfiguration :=
  start ⟨notifications, preferences, digests, []⟩ (flushes.map flushPendingDigests)

end Start

/-! ## What a flush holds -/

namespace DigestProgram

/-- What the flush may hold after a reply. -/
def After : (q : DigestRequest) → DigestReply q → Hold → Prop
  | .findPendingByUser _, .ok (pending : List Notification), h =>
    h = .idle ∨ ∃ ids, h = .unsent ids ∧ ∀ id ∈ ids, ∃ n ∈ pending, n.id = id
  | .insertDigest _ included, _, h => h = .idle ∨ h = .unsent included
  | .sendMail mail, .ok _, h => h = .sent mail.included
  | .updateStatus mail .sent _, _, h => h = .sent mail.included
  | .updateStatus _ .pending _, _, _ => False
  | _, _, h => h = .idle

/-- The flush holds what it read until it has marked it. -/
def Orderly {α : Type} : DigestProgram α → Prop
  | .done _ => True
  | .request q k => ∀ r, After q r (hold (k r)) ∧ Orderly (k r)

variable {α β : Type}

lemma Orderly.bind {p : DigestProgram α} (hp : Orderly p) {f : α → DigestProgram β}
    (hf : ∀ a, hold (f a) = .idle ∧ Orderly (f a)) : Orderly (p.bind f) := by
  induction p with
  | done a => exact (hf a).2
  | request q k ih =>
    intro r
    obtain ⟨hafter, hrest⟩ := hp r
    refine ⟨?_, ih r hrest⟩
    have hhold : hold ((k r).bind f) = hold (k r) := by
      cases k r with
      | done a => exact (hf a).1
      | request q' k' => rfl
    exact hhold.symm ▸ hafter

lemma orderly_request {q : DigestRequest} {k : DigestReply q → DigestProgram α}
    (h : ∀ r, After q r (hold (k r)) ∧ Orderly (k r)) : Orderly (.request q k) := h

lemma orderly_run_bind {x : DigestM α} {f : α → DigestM β} (hx : Orderly x.run)
    (hf : ∀ a, hold (f a).run = .idle ∧ Orderly (f a).run) : Orderly (x >>= f).run := by
  rw [Program.run_bind]
  refine hx.bind fun r => ?_
  cases r with
  | error e => exact ⟨rfl, trivial⟩
  | ok a => exact hf a

lemma orderly_getPreference (userID : String) : 
    Orderly (inStep "get preference" (Repository.getPreference userID)).run := by
  unfold Repository.getPreference parseID
  cases objectID userID with
  | error e => trivial
  | ok id =>
    refine orderly_request fun r => ?_
    cases r <;> exact ⟨rfl, trivial⟩

/-- A flush that has read pending notifications goes on with a digest of some of them. -/
lemma orderly_getPending {f : List Notification → DigestM β} (userID : String)
    (hf : ∀ pending, (hold (f pending).run = .idle ∨ ∃ ids, hold (f pending).run = .unsent ids ∧
      ∀ id ∈ ids, ∃ n ∈ pending, n.id = id) ∧ Orderly (f pending).run) :
    hold (inStep "get pending" (Repository.getPendingByUser userID) >>= f).run = .idle ∧
      Orderly (inStep "get pending" (Repository.getPendingByUser userID) >>= f).run := by
  unfold Repository.getPendingByUser parseID
  cases objectID userID with
  | error e => exact ⟨rfl, trivial⟩
  | ok id =>
    refine ⟨rfl, orderly_request fun r => ?_⟩
    cases r with
    | error e => exact ⟨rfl, trivial⟩
    | ok pending => exact hf pending

lemma filterMap_hex (ids : List ObjectID) :
    (ids.map ObjectID.hex).filterMap (fun id => (objectID id).toOption) = ids := by
  rw [List.filterMap_map]
  have hparse : (fun id => (objectID id).toOption) ∘ ObjectID.hex = some := by
    funext id
    rw [Function.comp_apply, Lms.objectID_hex]
    rfl
  rw [hparse, List.filterMap_some]

lemma orderly_markSent (included : List ObjectID) (digest : Digest) :
    hold (markSent included digest).run = .sent included ∧ Orderly (markSent included digest).run := by
  unfold markSent Repository.markDigested Repository.markDigestSent parseID
  rw [filterMap_hex, Lms.objectID_hex]
  refine ⟨rfl, orderly_request fun r => ⟨rfl, orderly_request fun r => ⟨rfl, trivial⟩⟩⟩

lemma emailProvider_send_cases (p : EmailProvider) (mail : DigestMail) :
    (∃ e, p.send mail = throw e) ∨ p.send mail = request "email: send" (.sendMail mail) := by
  unfold EmailProvider.send
  by_cases hsender : p.sender = ""
  · rw [if_pos hsender]
    exact .inl ⟨_, rfl⟩
  rw [if_neg hsender]
  by_cases hrecipient : mail.msg.recipient = ""
  · rw [if_pos hrecipient]
    exact .inl ⟨_, rfl⟩
  rw [if_neg hrecipient]
  by_cases hsubject : mail.msg.subject = ""
  · exact .inl ⟨_, if_pos hsubject⟩
  · exact .inr (if_neg hsubject)

/-- Sending ends in an error or goes on to the marks. -/
lemma orderly_send (email : Option EmailProvider) (mail : DigestMail) {f : DigestM Unit}
    (hf : hold f.run = .sent mail.included ∧ Orderly f.run) :
    (hold (inStep "send" (send email mail) >>= fun _ => f).run = .idle ∨
      hold (inStep "send" (send email mail) >>= fun _ => f).run = .unsent mail.included) ∧
      Orderly (inStep "send" (send email mail) >>= fun _ => f).run := by
  unfold send
  cases email with
  | none => exact ⟨.inl rfl, trivial⟩
  | some p =>
    dsimp only
    obtain ⟨e, hrefused⟩ | hrequest := emailProvider_send_cases p mail
    · rw [hrefused]
      exact ⟨.inl rfl, orderly_request fun r => ⟨rfl, trivial⟩⟩
    · rw [hrequest]
      refine ⟨.inr rfl, orderly_request fun r => ?_⟩
      cases r with
      | error e => exact ⟨rfl, orderly_request fun r => ⟨rfl, trivial⟩⟩
      | ok _ => exact ⟨rfl, orderly_request fun r => hf⟩

section Flush

variable [Renderer]

lemma orderly_sendPending (flush : Flush) (userID : String) (pref : Option NotificationPreference)
    (pending : List Notification) :
    (hold (sendPending flush userID pref pending).run = .idle ∨ ∃ ids,
      hold (sendPending flush userID pref pending).run = .unsent ids ∧ ∀ id ∈ ids, ∃ n ∈ pending, n.id = id) ∧
      Orderly (sendPending flush userID pref pending).run := by
  unfold sendPending
  by_cases hnone : pending = []
  · rw [if_pos hnone]
    exact ⟨.inl rfl, trivial⟩
  rw [if_neg hnone]
  refine ⟨.inr ⟨(pending.take flush.maxItems).map Notification.id, rfl, fun id hid => ?_⟩, orderly_request fun r => ?_⟩
  · obtain ⟨n, hn, rfl⟩ := List.mem_map.mp hid
    exact ⟨n, List.mem_of_mem_take hn, rfl⟩
  · cases r with
    | error e => exact ⟨.inl rfl, trivial⟩
    | ok _ => exact orderly_send flush.email (digestMail flush userID (newDigest flush userID pref pending)
        ((pending.take flush.maxItems).map Notification.id)) (orderly_markSent _ _)

lemma orderly_sendUserDigest (flush : Flush) (userID : String) :
    hold (sendUserDigest flush userID).run = .idle ∧ Orderly (sendUserDigest flush userID).run := by
  refine ⟨?_, orderly_run_bind (orderly_getPreference userID) fun pref => ?_⟩
  · unfold sendUserDigest Repository.getPreference parseID
    cases objectID userID <;> rfl
  by_cases hnone : digestFrequency pref = .none
  · rw [if_pos hnone]
    exact ⟨rfl, trivial⟩
  · rw [if_neg hnone]
    exact orderly_getPending userID fun pending => orderly_sendPending flush userID pref pending

lemma orderly_sendUserDigests (flush : Flush) (users : List String) :
    hold (sendUserDigests flush users) = .idle ∧ Orderly (sendUserDigests flush users) := by
  induction users with
  | nil => exact ⟨rfl, trivial⟩
  | cons userID users ih =>
    obtain ⟨hhold, horderly⟩ := orderly_sendUserDigest flush userID
    refine ⟨?_, horderly.bind fun _ => ih⟩
    unfold sendUserDigests
    cases hprogram : (sendUserDigest flush userID).run with
    | done r => exact ih.1
    | request q k =>
      rw [hprogram] at hhold
      exact hhold

lemma orderly_flushPendingDigests (flush : Flush) : Orderly (flushPendingDigests flush) := by
  refine orderly_request fun r => ?_
  cases r with
  | error e => exact ⟨rfl, trivial⟩
  | ok total =>
    refine ⟨rfl, orderly_request fun r => ?_⟩
    cases r with
    | error e => exact ⟨rfl, trivial⟩
    | ok notifications => exact orderly_sendUserDigests flush _

end Flush

end DigestProgram

/-! ## What a request does to the store -/

namespace DigestStore

/-- The notifications with the id are out of reach of later flushes. -/
def Marked (s : DigestStore) (id : ObjectID) : Prop :=
  ∀ n ∈ s.notifications.docs, n.id = id → n.status = .pending → n.digested = true

variable {s : DigestStore} {env : DigestEnv} {q : DigestRequest} {id : ObjectID}

lemma serve_cases (env : DigestEnv) (q : DigestRequest) (s : DigestStore) :
    (env.failure = none ∧ s.serve env q = s.carryOut env q) ∨
      (∃ e, env.failure = some (e, true) ∧ s.serve env q = (.error e, (s.carryOut env q).2)) ∨
        ∃ e, env.failure = some (e, false) ∧ s.serve env q = (.error e, s) := by
  unfold serve
  obtain hnone | ⟨⟨e, carriedOut⟩, hfailure⟩ := env.failure.eq_none_or_eq_some
  · rw [hnone]
    exact .inl ⟨rfl, rfl⟩
  · rw [hfailure]
    cases carriedOut with
    | true => exact .inr (.inl ⟨e, rfl, rfl⟩)
    | false => exact .inr (.inr ⟨e, rfl, rfl⟩)

lemma marked_carryOut (hq : ∀ mail errMsg, q ≠ .updateStatus mail .pending errMsg) (h : s.Marked id) :
    (s.carryOut env q).2.Marked id := by
  cases q with
  | countByStatus status => exact h
  | findByStatus status limit => exact h
  | findPreference userID => exact h
  | findPendingByUser userID => exact h
  | insertDigest digest included => exact h
  | sendMail mail => exact h
  | markDigestSent digestID => exact h
  | updateStatus mail status errMsg =>
    refine forall_modifyFirst h fun n _ _ hpending => ?_
    obtain rfl : status = .pending := hpending
    exact absurd rfl (hq mail errMsg)
  | markDigested ids digestID =>
    intro n' hn' hid hpending
    obtain ⟨n, hn, rfl⟩ := List.mem_map.mp hn'
    by_cases hmem : n.id ∈ ids
    · simp [hmem, setDigested]
    · simp only [hmem, decide_false, Bool.false_eq_true, if_false] at hid hpending ⊢
      exact h n hn hid hpending

lemma marked_serve (hq : ∀ mail errMsg, q ≠ .updateStatus mail .pending errMsg) (h : s.Marked id) :
    (s.serve env q).2.Marked id := by
  obtain ⟨-, hserve⟩ | ⟨e, -, hserve⟩ | ⟨e, -, hserve⟩ := serve_cases env q s
  · rw [hserve]
    exact marked_carryOut hq h
  · rw [hserve]
    exact marked_carryOut hq h
  · rw [hserve]
    exact h

/-- A mark that reaches the database. -/
lemma marked_markDigested {ids : List ObjectID} {digestID : String} (hcarried : env.failure.all fun failure => failure.2)
    (hid : id ∈ ids) : (s.serve env (.markDigested ids digestID)).2.Marked id := by
  have hmarked : (s.carryOut env (.markDigested ids digestID)).2.Marked id := by
    intro n' hn' hsame _
    obtain ⟨n, hn, rfl⟩ := List.mem_map.mp hn'
    by_cases hmem : n.id ∈ ids
    · simp [hmem, setDigested]
    · simp only [hmem, decide_false, Bool.false_eq_true, if_false] at hsame
      exact absurd (hsame ▸ hid) hmem
  obtain ⟨-, hserve⟩ | ⟨e, -, hserve⟩ | ⟨e, hfailure, -⟩ := serve_cases env (.markDigested ids digestID) s
  · rw [hserve]
    exact hmarked
  · rw [hserve]
    exact hmarked
  · rw [hfailure] at hcarried
    cases hcarried

/-- Only the mail server delivers. -/
lemma outbox_serve (hq : ∀ mail, q ≠ .sendMail mail) : (s.serve env q).2.outbox = s.outbox := by
  have hcarryOut : (s.carryOut env q).2.outbox = s.outbox := by
    cases q with
    | sendMail mail => exact absurd rfl (hq mail)
    | _ => rfl
  obtain ⟨-, hserve⟩ | ⟨e, -, hserve⟩ | ⟨e, -, hserve⟩ := serve_cases env q s
  · rw [hserve, hcarryOut]
  · rw [hserve, hcarryOut]
  · rw [hserve]

lemma delivered_iff : s.delivered id ↔ ∃ mail ∈ s.outbox, id ∈ mail.included := by
  unfold delivered
  simp only [List.any_eq_true, decide_eq_true_eq]

lemma mem_pendingOf {userID : ObjectID} {n : Notification} (hn : n ∈ s.pendingOf userID) :
    n ∈ s.notifications.docs ∧ n.status = .pending ∧ n.digested = false := by
  unfold pendingOf at hn
  simp only [List.mem_filter, Bool.and_eq_true, decide_eq_true_eq, Bool.not_eq_true'] at hn
  exact ⟨hn.1, hn.2.1.2, hn.2.2⟩

end DigestStore

/-! ## Runs -/

/-- No two flushes hold a notification, what is still to be sent is in no digest yet, and what was
sent is marked or about to be. -/
structure Tidy (c : FlushConfiguration) : Prop where
  orderly : ∀ p ∈ c.threads, DigestProgram.Orderly p
  apart : ∀ (i j : ℕ) p p', c.threads[i]? = some p → c.threads[j]? = some p' → i ≠ j →
    ∀ id ∈ (DigestProgram.hold p).ids, id ∉ (DigestProgram.hold p').ids
  unsent : ∀ p ∈ c.threads, ∀ ids, DigestProgram.hold p = .unsent ids → ∀ id ∈ ids, ¬c.store.delivered id
  sent : ∀ id, c.store.delivered id → c.store.Marked id ∨ ∃ p ∈ c.threads, id ∈ (DigestProgram.hold p).sentIDs
  once : c.store.OncePerDigest

namespace Tidy

variable {c : FlushConfiguration} {i : ℕ} {q : DigestRequest} {k : DigestReply q → DigestProgram Unit}

/-- One flush goes on. -/
lemma advance (h : Tidy c) (hi : c.threads[i]? = some (.request q k)) {s' : DigestStore} {p' : DigestProgram Unit}
    (horderly : DigestProgram.Orderly p')
    (hids : ∀ id ∈ (DigestProgram.hold p').ids,
      id ∈ q.hold.ids ∨ ∀ p ∈ c.threads, id ∉ (DigestProgram.hold p).ids)
    (hdelivered : ∀ id, s'.delivered id → c.store.delivered id ∨ id ∈ q.hold.ids)
    (hunsent : ∀ ids, DigestProgram.hold p' = .unsent ids → ∀ id ∈ ids, ¬s'.delivered id)
    (hmarked : ∀ id, c.store.Marked id → s'.Marked id)
    (hsent : ∀ id, s'.delivered id → s'.Marked id ∨ id ∈ (DigestProgram.hold p').sentIDs ∨
      c.store.delivered id ∧ id ∉ q.hold.sentIDs)
    (honce : s'.OncePerDigest) (history : List (Event DigestEnv DigestRequest DigestStore)) :
    Tidy ⟨s', c.threads.set i p', history⟩ := by
  have hlength : i < c.threads.length := (List.getElem?_eq_some_iff.mp hi).1
  have hthreads : ∀ (j : ℕ) p, (c.threads.set i p')[j]? = some p →
      (j = i ∧ p = p') ∨ (j ≠ i ∧ c.threads[j]? = some p) := by
    intro j p hp
    rw [List.getElem?_set] at hp
    by_cases hij : i = j
    · rw [if_pos hij, if_pos hlength, Option.some_inj] at hp
      exact .inl ⟨hij.symm, hp.symm⟩
    · rw [if_neg hij] at hp
      exact .inr ⟨Ne.symm hij, hp⟩
  have hnew : (c.threads.set i p')[i]? = some p' := List.getElem?_set_self hlength
  -- what the flush holds now no other flush holds
  have hothers : ∀ (j : ℕ) p, c.threads[j]? = some p → j ≠ i → ∀ id ∈ (DigestProgram.hold p').ids,
      id ∉ (DigestProgram.hold p).ids := by
    intro j p hp hji id hid
    obtain hbefore | hfree := hids id hid
    · exact h.apart i j _ p hi hp (Ne.symm hji) id hbefore
    · exact hfree p (List.mem_of_getElem? hp)
  refine ⟨fun p hp => ?_, fun j l p₁ p₂ hj hl hjl id hid => ?_, fun p hp ids hhold id hid => ?_, fun id hid => ?_, honce⟩
  · obtain hold | rfl := List.mem_or_eq_of_mem_set hp
    · exact h.orderly p hold
    · exact horderly
  · obtain ⟨rfl, rfl⟩ | ⟨hji, hj'⟩ := hthreads j p₁ hj
    · obtain ⟨rfl, -⟩ | ⟨hli, hl'⟩ := hthreads l p₂ hl
      · exact absurd rfl hjl
      · exact hothers l p₂ hl' hli id hid
    · obtain ⟨rfl, rfl⟩ | ⟨hli, hl'⟩ := hthreads l p₂ hl
      · exact fun hid' => hothers j p₁ hj' hji id hid' hid
      · exact h.apart j l p₁ p₂ hj' hl' hjl id hid
  · obtain ⟨j, hj⟩ := List.getElem?_of_mem hp
    obtain ⟨-, rfl⟩ | ⟨hji, hj⟩ := hthreads j p hj
    · exact hunsent ids hhold id hid
    · intro hnow
      obtain hbefore | hmine := hdelivered id hnow
      · exact h.unsent p (List.mem_of_getElem? hj) ids hhold id hid hbefore
      · exact h.apart i j _ p hi hj (Ne.symm hji) id hmine (by rw [hhold]; exact hid)
  · obtain hnow | hmine | ⟨hbefore, hother⟩ := hsent id hid
    · exact .inl hnow
    · exact .inr ⟨p', List.mem_of_getElem? hnew, hmine⟩
    · obtain hmark | ⟨p, hp, hheld⟩ := h.sent id hbefore
      · exact .inl (hmarked id hmark)
      · obtain ⟨j, hj⟩ := List.getElem?_of_mem hp
        have hji : j ≠ i := by
          rintro rfl
          obtain rfl := Option.some_inj.mp (hi.symm.trans hj)
          exact hother hheld
        refine .inr ⟨p, List.mem_of_getElem? (i := j) ?_, hheld⟩
        rw [List.getElem?_set, if_neg (Ne.symm hji), hj]

/-- A request by which nothing is sent, after which the flush holds nothing new. -/
lemma advance_quiet (h : Tidy c) (hi : c.threads[i]? = some (.request q k)) (env : DigestEnv)
    (hq : ∀ mail, q ≠ .sendMail mail) (hstatus : ∀ mail errMsg, q ≠ .updateStatus mail .pending errMsg)
    (hhold : DigestProgram.hold (k (c.store.serve env q).1) = .idle ∧ q.hold.sentIDs = [] ∨
      DigestProgram.hold (k (c.store.serve env q).1) = q.hold)
    (history : List (Event DigestEnv DigestRequest DigestStore)) :
    Tidy ⟨(c.store.serve env q).2, c.threads.set i (k (c.store.serve env q).1), history⟩ := by
  have hmem := List.mem_of_getElem? hi
  have houtbox : (c.store.serve env q).2.outbox = c.store.outbox := DigestStore.outbox_serve hq
  have hdelivered : ∀ id, (c.store.serve env q).2.delivered id = c.store.delivered id := by
    intro id
    unfold DigestStore.delivered
    rw [houtbox]
  refine h.advance hi (h.orderly _ hmem _).2 (fun id hid => ?_) (fun id hid => ?_) (fun ids hunsent id hid => ?_)
    (fun id => DigestStore.marked_serve hstatus) (fun id hid => ?_) ?_ history
  · obtain ⟨hidle, -⟩ | hsame := hhold
    · rw [hidle] at hid
      cases hid
    · exact .inl (hsame ▸ hid)
  · exact .inl (hdelivered id ▸ hid)
  · obtain ⟨hidle, -⟩ | hsame := hhold
    · rw [hidle] at hunsent
      cases hunsent
    · rw [hdelivered]
      exact h.unsent _ hmem ids (hsame.symm.trans hunsent) id hid
  · rw [hdelivered] at hid
    obtain ⟨-, hnone⟩ | hsame := hhold
    · exact .inr (.inr ⟨hid, by rw [hnone]; exact List.not_mem_nil⟩)
    · by_cases hmine : id ∈ q.hold.sentIDs
      · exact .inr (.inl (hsame.symm ▸ hmine))
      · exact .inr (.inr ⟨hid, hmine⟩)
  · unfold DigestStore.OncePerDigest
    rw [houtbox]
    exact h.once

/-- Pending notifications are read that no flush holds. -/
lemma advance_read (h : Tidy c) {userID : ObjectID} {k : DigestReply (.findPendingByUser userID) → DigestProgram Unit}
    (hi : c.threads[i]? = some (.request (.findPendingByUser userID) k))
    (hfree : ∀ n ∈ c.store.pendingOf userID, ∀ p ∈ c.threads, n.id ∉ (DigestProgram.hold p).ids) {ids : List ObjectID}
    (hhold : DigestProgram.hold (k (.ok (c.store.pendingOf userID))) = .unsent ids)
    (hread : ∀ id ∈ ids, ∃ n ∈ c.store.pendingOf userID, n.id = id)
    (history : List (Event DigestEnv DigestRequest DigestStore)) :
    Tidy ⟨c.store, c.threads.set i (k (.ok (c.store.pendingOf userID))), history⟩ := by
  refine h.advance hi (h.orderly _ (List.mem_of_getElem? hi) _).2 (fun id hid => ?_) (fun id hid => .inl hid)
    (fun ids' hunsent id hid hdelivered => ?_) (fun id hmarked => hmarked)
    (fun id hid => .inr (.inr ⟨hid, List.not_mem_nil⟩)) h.once history
  · rw [hhold] at hid
    obtain ⟨n, hn, rfl⟩ := hread id hid
    exact .inr (hfree n hn)
  · obtain rfl : ids' = ids := by
      rw [hhold] at hunsent
      exact (Hold.unsent.inj hunsent).symm
    obtain ⟨n, hn, rfl⟩ := hread id hid
    obtain ⟨hstored, hpending, hdigested⟩ := DigestStore.mem_pendingOf hn
    obtain hmarked | ⟨p, hp, hheld⟩ := h.sent n.id hdelivered
    · rw [hmarked n hstored rfl hpending] at hdigested
      cases hdigested
    · refine hfree n hn p hp ?_
      cases hphase : DigestProgram.hold p with
      | idle =>
        rw [hphase] at hheld
        cases hheld
      | unsent ids =>
        rw [hphase] at hheld
        cases hheld
      | sent ids =>
        rw [hphase] at hheld
        exact hheld

/-- A mail that is delivered. -/
lemma advance_sent (h : Tidy c) {mail : DigestMail} {k : DigestReply (.sendMail mail) → DigestProgram Unit}
    (hi : c.threads[i]? = some (.request (.sendMail mail) k))
    (hhold : DigestProgram.hold (k (.ok ())) = .sent mail.included)
    (history : List (Event DigestEnv DigestRequest DigestStore)) :
    Tidy ⟨{ c.store with outbox := c.store.outbox ++ [mail] }, c.threads.set i (k (.ok ())), history⟩ := by
  have hdelivered : ∀ id, DigestStore.delivered { c.store with outbox := c.store.outbox ++ [mail] } id →
      c.store.delivered id ∨ id ∈ mail.included := by
    intro id hid
    obtain ⟨mail', hmail, hincluded⟩ := DigestStore.delivered_iff.mp hid
    obtain hbefore | hnow := List.mem_append.mp hmail
    · exact .inl (DigestStore.delivered_iff.mpr ⟨mail', hbefore, hincluded⟩)
    · obtain rfl := List.mem_singleton.mp hnow
      exact .inr hincluded
  refine h.advance hi (h.orderly _ (List.mem_of_getElem? hi) _).2 (fun id hid => ?_) hdelivered
    (fun ids hunsent id hid => ?_) (fun id hmarked => hmarked) (fun id hid => ?_) ?_ history
  · rw [hhold] at hid
    exact .inl hid
  · rw [hhold] at hunsent
    cases hunsent
  · obtain hbefore | hnow := hdelivered id hid
    · exact .inr (.inr ⟨hbefore, List.not_mem_nil⟩)
    · refine .inr (.inl ?_)
      rw [hhold]
      exact hnow
  · refine List.pairwise_append.mpr ⟨h.once, List.pairwise_singleton _ _, fun mail₁ hmail₁ mail₂ hmail₂ id hid hid' => ?_⟩
    obtain rfl := List.mem_singleton.mp hmail₂
    exact h.unsent _ (List.mem_of_getElem? hi) _ rfl id hid' (DigestStore.delivered_iff.mpr ⟨mail₁, hmail₁, hid⟩)

/-- A mail that is not delivered. -/
lemma advance_unsent (h : Tidy c) {mail : DigestMail} {k : DigestReply (.sendMail mail) → DigestProgram Unit}
    (hi : c.threads[i]? = some (.request (.sendMail mail) k)) {e : String}
    (hhold : DigestProgram.hold (k (.error e)) = .idle) (history : List (Event DigestEnv DigestRequest DigestStore)) :
    Tidy ⟨c.store, c.threads.set i (k (.error e)), history⟩ := by
  refine h.advance hi (h.orderly _ (List.mem_of_getElem? hi) _).2 (fun id hid => ?_) (fun id hid => .inl hid)
    (fun ids hunsent id hid => ?_) (fun id hmarked => hmarked)
    (fun id hid => .inr (.inr ⟨hid, List.not_mem_nil⟩)) h.once history
  · rw [hhold] at hid
    cases hid
  · rw [hhold] at hunsent
    cases hunsent

/-- A mark that reaches the database. -/
lemma advance_mark (h : Tidy c) {ids : List ObjectID} {digestID : String}
    {k : DigestReply (.markDigested ids digestID) → DigestProgram Unit}
    (hi : c.threads[i]? = some (.request (.markDigested ids digestID) k)) {env : DigestEnv}
    (hcarried : env.failure.all fun failure => failure.2)
    (hhold : DigestProgram.hold (k (c.store.serve env (.markDigested ids digestID)).1) = .idle)
    (history : List (Event DigestEnv DigestRequest DigestStore)) :
    Tidy ⟨(c.store.serve env (.markDigested ids digestID)).2,
      c.threads.set i (k (c.store.serve env (.markDigested ids digestID)).1), history⟩ := by
  have houtbox : (c.store.serve env (.markDigested ids digestID)).2.outbox = c.store.outbox :=
    DigestStore.outbox_serve fun mail hq => by cases hq
  have hdelivered : ∀ id, (c.store.serve env (.markDigested ids digestID)).2.delivered id = c.store.delivered id := by
    intro id
    unfold DigestStore.delivered
    rw [houtbox]
  refine h.advance hi (h.orderly _ (List.mem_of_getElem? hi) _).2 (fun id hid => ?_)
    (fun id hid => .inl (hdelivered id ▸ hid)) (fun ids' hunsent id hid => ?_)
    (fun id => DigestStore.marked_serve fun mail errMsg hq => by cases hq) (fun id hid => ?_) ?_ history
  · rw [hhold] at hid
    cases hid
  · rw [hhold] at hunsent
    cases hunsent
  · by_cases hmine : id ∈ ids
    · exact .inl (DigestStore.marked_markDigested hcarried hmine)
    · exact .inr (.inr ⟨hdelivered id ▸ hid, hmine⟩)
  · unfold DigestStore.OncePerDigest
    rw [houtbox]
    exact h.once

/-- One request of one flush. -/
lemma request (h : Tidy c) (hi : c.threads[i]? = some (.request q k)) {env : DigestEnv}
    (hundisturbed : q.UndisturbedIn c env) (history : List (Event DigestEnv DigestRequest DigestStore)) :
    Tidy ⟨(c.store.serve env q).2, c.threads.set i (k (c.store.serve env q).1), history⟩ := by
  have hafter := fun r => ((h.orderly _ (List.mem_of_getElem? hi)) r).1
  cases q with
  | countByStatus status =>
    exact h.advance_quiet hi env (by simp) (by simp) (.inl ⟨hafter _, rfl⟩) history
  | findByStatus status limit =>
    exact h.advance_quiet hi env (by simp) (by simp) (.inl ⟨hafter _, rfl⟩) history
  | findPreference userID =>
    exact h.advance_quiet hi env (by simp) (by simp) (.inl ⟨hafter _, rfl⟩) history
  | markDigestSent digestID =>
    exact h.advance_quiet hi env (by simp) (by simp) (.inl ⟨hafter _, rfl⟩) history
  | insertDigest digest included =>
    refine h.advance_quiet hi env (by simp) (by simp) ?_ history
    exact (hafter _).imp_left fun hidle => ⟨hidle, rfl⟩
  | updateStatus mail status errMsg =>
    have hpending : status ≠ .pending := by
      rintro rfl
      exact hafter (.ok ())
    refine h.advance_quiet hi env (by simp) (fun mail' errMsg' hq => ?_) ?_ history
    · injection hq with _ hstatus _
      exact hpending hstatus
    · cases status with
      | pending => exact absurd rfl hpending
      | sent => exact .inr (hafter _)
      | _ => exact .inl ⟨hafter _, rfl⟩
  | findPendingByUser userID =>
    obtain ⟨hfailure, hserve⟩ | ⟨e, -, hserve⟩ | ⟨e, -, hserve⟩ :=
      DigestStore.serve_cases env (.findPendingByUser userID) c.store
    · obtain hidle | ⟨ids, hhold, hread⟩ := hafter (.ok (c.store.pendingOf userID))
      · refine h.advance_quiet hi env (by simp) (by simp) (.inl ⟨?_, rfl⟩) history
        rw [hserve]
        exact hidle
      · rw [hserve]
        exact h.advance_read hi (hundisturbed hfailure) hhold hread history
    · refine h.advance_quiet hi env (by simp) (by simp) (.inl ⟨?_, rfl⟩) history
      rw [hserve]
      exact hafter (.error e)
    · refine h.advance_quiet hi env (by simp) (by simp) (.inl ⟨?_, rfl⟩) history
      rw [hserve]
      exact hafter (.error e)
  | sendMail mail =>
    obtain ⟨-, hserve⟩ | ⟨e, hfailure, -⟩ | ⟨e, -, hserve⟩ := DigestStore.serve_cases env (.sendMail mail) c.store
    · rw [hserve]
      exact h.advance_sent hi (hafter (.ok ())) history
    · have hreported := hundisturbed
      unfold DigestRequest.UndisturbedIn at hreported
      rw [hfailure] at hreported
      cases hreported
    · rw [hserve]
      exact h.advance_unsent hi (hafter (.error e)) history
  | markDigested ids digestID => exact h.advance_mark hi hundisturbed (hafter _) history

lemma step (h : Tidy c) {choice : ℕ × DigestEnv} (hchoice : Undisturbed c choice) :
    Tidy (c.step DigestStore.serve choice) := by
  unfold Config.step
  split
  · next q k hi => exact h.request hi (hchoice _ hi q rfl) _
  · exact h

lemma run (h : Tidy c) {schedule : List (ℕ × DigestEnv)}
    (hschedule : Throughout (Config.step DigestStore.serve) Undisturbed c schedule) :
    Tidy (c.run DigestStore.serve schedule) := by
  induction schedule generalizing c with
  | nil => exact h
  | cons choice schedule ih => exact ih (h.step hschedule.1) hschedule.2

lemma startFlushes [Renderer] (notifications : Collection Notification.id) (preferences : List NotificationPreference)
    (digests : Collection Digest.id) (flushes : List Flush) :
    Tidy (startFlushes notifications preferences digests flushes) := by
  have hidle : ∀ p ∈ flushes.map flushPendingDigests, DigestProgram.hold p = .idle := by
    intro p hp
    obtain ⟨flush, -, rfl⟩ := List.mem_map.mp hp
    rfl
  refine ⟨fun p hp => ?_, fun j l p₁ p₂ hj _ _ id hid => ?_, fun p hp ids hhold => ?_, fun id hid => ?_, .nil⟩
  · obtain ⟨flush, -, rfl⟩ := List.mem_map.mp hp
    exact DigestProgram.orderly_flushPendingDigests flush
  · rw [hidle p₁ (List.mem_of_getElem? hj)] at hid
    cases hid
  · rw [hidle p hp] at hhold
    cases hhold
  · cases hid

end Tidy

/-- In a run without disturbances the laws hold exactly if no remaining notification is hidden. -/
theorem digestLaws_run_iff [Renderer] (notifications : Collection Notification.id)
    (preferences : List NotificationPreference) (digests : Collection Digest.id) (flushes : List Flush)
    {schedule : List (ℕ × DigestEnv)} (h : Throughout (Config.step DigestStore.serve) Undisturbed
      (startFlushes notifications preferences digests flushes) schedule) :
    let s := ((startFlushes notifications preferences digests flushes).run DigestStore.serve schedule).store
    DigestLaws s ↔ s.Unhidden := by
  have honce := ((Tidy.startFlushes notifications preferences digests flushes).run h).once
  constructor
  · intro hlaws
    exact (DigestStore.findsWaiting_iff _).mp hlaws.finds
  · intro hunhidden
    exact ⟨honce, (DigestStore.findsWaiting_iff _).mpr hunhidden⟩

section Examples

namespace Sample

@[reducible] def plainRenderer : Renderer := ⟨fun _ data => .ok (joinLines (data.map Prod.snd))⟩

def notifications : Collection Notification.id :=
  .singleton ⟨Lms.Sample.id 1, Lms.Sample.id 2, .email, "", "Hot", "AI", .pending, "", false, "", none, 0, 0⟩

def preferences : List NotificationPreference := [⟨Lms.Sample.id 2, .daily⟩]

/-- A flush that gives out two ids from a number on. -/
def flush (n : ℕ) : Flush where
  email := some ⟨"erg@erg.ninja"⟩
  digestID _ := Lms.Sample.id n
  messageID _ := Lms.Sample.id (n + 1)

/-- Requests of these flushes, all of them answered. -/
def answered (threads : List ℕ) : List (ℕ × DigestEnv) := threads.map fun i => (i, {})

end Sample

open Sample

attribute [local instance] plainRenderer

/-- The second flush reads the notification only after the first has marked it. -/
theorem digestLaws_run_iff_overlapping :
    let s := ((startFlushes notifications preferences .empty [flush 3, flush 5]).run DigestStore.serve
      (answered [0, 1, 0, 1, 0, 1, 0, 0, 0, 0, 0, 0, 1])).store
    s.outbox.length = 1 ∧ (DigestLaws s ↔ s.Unhidden) :=
  ⟨by decide, digestLaws_run_iff notifications preferences .empty [flush 3, flush 5] (by decide)⟩

/-- Two flushes read the notification before either has marked it, and both send it. -/
theorem digested_twice : ¬DigestLaws ((startFlushes notifications preferences .empty [flush 3, flush 5]).run
    DigestStore.serve (answered [0, 0, 0, 0, 1, 1, 1, 1, 0, 0, 1, 1])).store := by
  intro h
  have htwice : ¬((startFlushes notifications preferences .empty [flush 3, flush 5]).run DigestStore.serve
      (answered [0, 0, 0, 0, 1, 1, 1, 1, 0, 0, 1, 1])).store.OncePerDigest := by decide
  exact htwice h.once

end Examples

end ErgGo.Notifications
