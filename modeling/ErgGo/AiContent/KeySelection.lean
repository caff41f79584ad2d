import ErgGo.Lib.Runs
import ErgGo.AiContent.KeyCalls
import Mathlib.Data.Finset.Card

/-!
# Overlapping selections

Between the calls at most one key is selected, and the selection is lost only with its key, where
the selections that overlap are of the same key, no request of a selection is lost halfway and the
key is not deleted meanwhile.
-/

namespace ErgGo.AiContent
open Go Documents Bson Concurrent Runs

abbrev KeyResult := Except KeyError (Option APIKeyResponse)

abbrev KeyConfiguration := Config (Option KeyFault) KeyRequest KeyReply KeyStore KeyResult

/-! ## The laws -/

namespace KeyStore

def selectedIDs (s : KeyStore) : List String := (s.docs.filter ApiKey.selected).map ApiKey.id

def Stored (s : KeyStore) (id : String) : Prop := (s.lookup id).isSome

instance (s : KeyStore) (id : String) : Decidable (s.Stored id) :=
  inferInstanceAs (Decidable ((s.lookup id).isSome = true))

end KeyStore

/-- Each call has returned or has not begun. -/
def Quiescent (c : KeyConfiguration) : Prop :=
  ∀ i p, c.threads[i]? = some p → (∃ r, p = .done r) ∨ ∀ e ∈ c.history, e.thread ≠ i

/-- A key is deleted that was selected at that moment. -/
def RemovesSelected (e : Event (Option KeyFault) KeyRequest KeyStore) : Prop :=
  ∃ id, e.req = .delete id ∧ id ∈ e.before.selectedIDs ∧ ¬(e.after KeyStore.serve).Stored id

structure SelectionLaws (c : KeyConfiguration) (schedule : List (ℕ × Option KeyFault)) : Prop where
  one : ∀ l, l <+: schedule → Quiescent (c.run KeyStore.serve l) →
    (c.run KeyStore.serve l).store.selectedIDs.length ≤ 1
  kept : ∀ l₁ l₂, l₁ ++ l₂ <+: schedule → Quiescent (c.run KeyStore.serve l₁) →
    Quiescent (c.run KeyStore.serve (l₁ ++ l₂)) → (c.run KeyStore.serve l₁).store.selectedIDs ≠ [] →
    (c.run KeyStore.serve (l₁ ++ l₂)).store.selectedIDs = [] →
    ∃ h, (c.run KeyStore.serve (l₁ ++ l₂)).history = (c.run KeyStore.serve l₁).history ++ h ∧ ∃ e ∈ h, RemovesSelected e
  nil : ∀ l, l <+: schedule → ∀ p ∈ (c.run KeyStore.serve l).threads, p ≠ .done (.error .nilDereference)

/-! ## The condition -/

/-- The keys that calls have cleared the selection for. -/
def selecting (c : KeyConfiguration) : List String := c.threads.filterMap fun p => (KeyProgram.stage p).clearing?

/-- What is asked of a request, in the state it meets and given how it fails. -/
def KeyRequest.UndisturbedIn (c : KeyConfiguration) (fault : Option KeyFault) : KeyRequest → Prop
  | .insert key => key.selected → performed fault key.id → fault.isSome → c.store.selectedIDs = [] ∧ selecting c = []
  | .clearSelected _ next created =>
    (fault = none ∨ created → ∀ id ∈ selecting c, id = next) ∧
      (fault.isSome → created → ∀ id ∈ c.store.selectedIDs, performed fault id ∨ id = next) ∧
      (c.store.selectedIDs ≠ [] →
        if fault.isSome then ∃ id ∈ c.store.selectedIDs, ¬performed fault id else c.store.Stored next)
  | .setSelected id _ => c.store.Stored id → performed fault id ∨ c.store.selectedIDs ≠ []
  | .delete id => performed fault id → id ∈ selecting c → c.store.selectedIDs ≠ []
  | _ => True

def Undisturbed (c : KeyConfiguration) (choice : ℕ × Option KeyFault) : Prop :=
  ∀ p ∈ c.threads[choice.1]?, ∀ q ∈ KeyProgram.next p, q.UndisturbedIn c choice.2

instance (fault : Option KeyFault) : Decidable (fault = none) := decidable_of_iff _ Option.isNone_iff_eq_none

instance (c : KeyConfiguration) (fault : Option KeyFault) : DecidablePred (KeyRequest.UndisturbedIn c fault)
  | .insert key => inferInstanceAs (Decidable (key.selected → performed fault key.id → fault.isSome →
      c.store.selectedIDs = [] ∧ selecting c = []))
  | .clearSelected _ next created => inferInstanceAs (Decidable (
      (fault = none ∨ created → ∀ id ∈ selecting c, id = next) ∧
        (fault.isSome → created → ∀ id ∈ c.store.selectedIDs, performed fault id ∨ id = next) ∧
        (c.store.selectedIDs ≠ [] →
          if fault.isSome then ∃ id ∈ c.store.selectedIDs, ¬performed fault id else c.store.Stored next)))
  | .setSelected id _ => inferInstanceAs (Decidable (
      c.store.Stored id → performed fault id ∨ c.store.selectedIDs ≠ []))
  | .delete id => inferInstanceAs (Decidable (performed fault id → id ∈ selecting c → c.store.selectedIDs ≠ []))
  | .updateSecret .. => .isTrue trivial
  | .find _ => .isTrue trivial
  | .updateStatus .. => .isTrue trivial
  | .generateText .. => .isTrue trivial

instance (c : KeyConfiguration) (choice : ℕ × Option KeyFault) : Decidable (Undisturbed c choice) :=
  inferInstanceAs (Decidable (∀ p ∈ c.threads[choice.1]?, ∀ q ∈ KeyProgram.next p, q.UndisturbedIn c choice.2))

def startCalls [Library] [KeyLibrary] (keys : KeyStore) (calls : List (KeyCallEnv × KeyCall)) : KeyConfiguration :=
  start keys (calls.map fun call => (call.2.program call.1).run)

/-! ## What a request does to the selection -/

/-- What becomes of a key, of which it is known whether it is stored and whether it is selected. -/
def KeyRequest.effect (fault : Option KeyFault) (id : String) (mark : Option Bool) : KeyRequest → Option Bool
  | .insert key => if key.id = id ∧ performed fault id ∧ mark = none then some key.selected else mark
  | .delete id' => if id' = id ∧ performed fault id then none else mark
  | .clearSelected .. => mark.map fun selected => selected && !performed fault id
  | .setSelected id' _ => if id' = id ∧ performed fault id then mark.map fun _ => true else mark
  | _ => mark

namespace KeyStore

def selection (s : KeyStore) (id : String) : Option Bool := (s.lookup id).map ApiKey.selected

lemma mem_selectedIDs {s : KeyStore} {id : String} : id ∈ s.selectedIDs ↔ s.selection id = some true := by
  unfold selectedIDs selection
  rw [List.mem_map, Option.map_eq_some_iff]
  refine exists_congr fun key => ?_
  rw [List.mem_filter, Collection.lookup_eq_some_iff, and_right_comm]

lemma stored_iff {s : KeyStore} {id : String} : s.Stored id ↔ s.selection id ≠ none := by
  unfold Stored selection
  rw [Option.isSome_iff_ne_none, Ne, Ne, Option.map_eq_none_iff]

lemma stored_of_selected {s : KeyStore} {id : String} (h : id ∈ s.selectedIDs) : s.Stored id := by
  rw [stored_iff, mem_selectedIDs.mp h]
  exact Option.some_ne_none _

lemma nodup_selectedIDs (s : KeyStore) : s.selectedIDs.Nodup := s.nodup.sublist (List.filter_sublist.map _)

lemma length_selectedIDs {s : KeyStore} :
    s.selectedIDs.length ≤ 1 ↔ ∀ id ∈ s.selectedIDs, ∀ id' ∈ s.selectedIDs, id = id' := by
  rw [← List.toFinset_card_of_nodup s.nodup_selectedIDs, Finset.card_le_one]
  simp only [List.mem_toFinset]

lemma selection_update (s : KeyStore) (fault : Option KeyFault) (id' : String) (u : Update ApiKey.id) (id : String) :
    (update fault id' u s).selection id =
      if id' = id ∧ performed fault id then (s.lookup id).map fun key => (u.apply key).selected
      else s.selection id := by
  unfold update selection
  by_cases hperformed : performed fault id'
  · have hpinned : Pinned ApiKey.id (fun key => decide (key.id = id')) id' := fun key hkey => of_decide_eq_true hkey
    rw [if_pos hperformed, Collection.lookup_updateOne hpinned, Option.map_map]
    by_cases hid : id' = id
    · subst hid
      rw [if_pos ⟨rfl, hperformed⟩]
      cases hkey : s.lookup id' with
      | none => rfl
      | some key => simp [Collection.key_of_lookup hkey]
    · rw [if_neg fun h => hid h.1]
      have hid' : ¬id = id' := fun h => hid h.symm
      simp [hid', Function.comp_def]
  · rw [if_neg hperformed, if_neg]
    rintro ⟨rfl, h⟩
    exact hperformed h

/-- An update that leaves the selection as it is. -/
lemma selection_update_of_keeps {s : KeyStore} {fault : Option KeyFault} {id' : String} {u : Update ApiKey.id}
    (hu : ∀ key, (u.apply key).selected = key.selected) (id : String) :
    (update fault id' u s).selection id = s.selection id := by
  rw [selection_update]
  simp only [hu]
  exact ite_self _

lemma selection_insert (s : KeyStore) (fault : Option KeyFault) (key : ApiKey) (id : String) :
    (serve fault (.insert key) s).2.selection id = (KeyRequest.insert key).effect fault id (s.selection id) := by
  unfold serve carryOut selection KeyRequest.effect
  dsimp only
  by_cases hperformed : performed fault key.id
  · rw [if_pos hperformed]
    by_cases hid : key.id = id
    · subst hid
      cases hinsert : s.insertOne key.stored with
      | none =>
        have hmem : key.id ∈ s.docs.map ApiKey.id := by
          unfold Collection.insertOne at hinsert
          split at hinsert
          · assumption
          · cases hinsert
        have htaken : s.lookup key.id ≠ none := fun hnone => Collection.lookup_eq_none_iff.mp hnone hmem
        have hmark : (s.lookup key.id).map ApiKey.selected ≠ none := by simpa using htaken
        rw [if_neg fun h => hmark h.2.2]
        rfl
      | some s' =>
        have hfree := Collection.lookup_of_insertOne hinsert
        have hmark : (s.lookup key.id).map ApiKey.selected = none := Option.map_eq_none_iff.mpr hfree
        have hid : key.stored.id = key.id := rfl
        rw [Option.getD_some, Collection.lookup_insertOne hinsert, if_pos hid, if_pos ⟨rfl, hperformed, hmark⟩]
        rfl
    · have hother : key.stored.id ≠ id := hid
      rw [if_neg fun h => hid h.1, Collection.lookup_getD_insertOne_of_ne hother]
  · rw [if_neg hperformed, if_neg]
    rintro ⟨rfl, h, -⟩
    exact hperformed h

lemma selection_delete (s : KeyStore) (fault : Option KeyFault) (id' id : String) :
    (serve fault (.delete id') s).2.selection id = (KeyRequest.delete id').effect fault id (s.selection id) := by
  unfold serve carryOut selection KeyRequest.effect
  dsimp only
  by_cases hperformed : performed fault id'
  · rw [if_pos hperformed]
    by_cases hid : id' = id
    · subst hid
      have hgone : (s.deleteMany fun key => decide (key.id = id')).lookup id' = none := by
        unfold Collection.deleteMany Collection.lookup
        simp
      rw [if_pos ⟨rfl, hperformed⟩, hgone]
      rfl
    · rw [if_neg fun h => hid h.1, Collection.lookup_deleteMany_of_ne]
      intro key hkey
      exact decide_eq_false fun h => hid (h.symm.trans hkey)
  · rw [if_neg hperformed, if_neg]
    rintro ⟨rfl, h⟩
    exact hperformed h

lemma selection_clearSelected (s : KeyStore) (fault : Option KeyFault) (now : Time) (next : String) (created : Bool)
    (id : String) : (serve fault (.clearSelected now next created) s).2.selection id =
      (KeyRequest.clearSelected now next created).effect fault id (s.selection id) := by
  unfold serve carryOut selection KeyRequest.effect
  dsimp only
  rw [Collection.lookup_updateMany, Option.map_map, Option.map_map]
  cases hkey : s.lookup id with
  | none => rfl
  | some key =>
    have hid := Collection.key_of_lookup hkey
    cases hselected : key.selected with
    | false => simp [hselected]
    | true => cases hperformed : performed fault id <;> simp [hselected, hid, hperformed, deselect]

/-- The store carries out what a request does to a key. -/
theorem selection_serve (s : KeyStore) (fault : Option KeyFault) (q : KeyRequest) (id : String) :
    (serve fault q s).2.selection id = q.effect fault id (s.selection id) := by
  cases q with
  | insert key => exact selection_insert s fault key id
  | updateSecret key now => exact selection_update_of_keeps (fun _ => rfl) id
  | find id' => rfl
  | delete id' => exact selection_delete s fault id' id
  | clearSelected now next created => exact selection_clearSelected s fault now next created id
  | setSelected id' now =>
    refine (selection_update s fault id' (select now) id).trans ?_
    unfold KeyRequest.effect selection
    dsimp only
    rw [Option.map_map]
    rfl
  | updateStatus id' status message now => exact selection_update_of_keeps (fun _ => rfl) id
  | generateText cfg prompt => rfl

variable {s : KeyStore} {fault : Option KeyFault} {q : KeyRequest} {id : String}

/-- A key gets selected by being inserted so or by being set. -/
lemma selected_of_serve (h : id ∈ (serve fault q s).2.selectedIDs) : id ∈ s.selectedIDs ∨
    (∃ key, q = .insert key ∧ key.selected ∧ performed fault key.id ∧ key.id = id) ∨
      ∃ now, q = .setSelected id now := by
  rw [mem_selectedIDs, selection_serve] at h
  rw [mem_selectedIDs]
  cases q with
  | insert key =>
    unfold KeyRequest.effect at h
    dsimp only at h
    split at h
    · next hinserted =>
      obtain ⟨rfl, hperformed, -⟩ := hinserted
      exact .inr (.inl ⟨key, rfl, Option.some.inj h, hperformed, rfl⟩)
    · exact .inl h
  | updateSecret key now => exact .inl h
  | find id' => exact .inl h
  | delete id' =>
    unfold KeyRequest.effect at h
    dsimp only at h
    split at h
    · cases h
    · exact .inl h
  | clearSelected now next created =>
    obtain ⟨selected, hmark, hselected⟩ := Option.map_eq_some_iff.mp h
    rw [Bool.and_eq_true] at hselected
    exact .inl (hselected.1 ▸ hmark)
  | setSelected id' now =>
    unfold KeyRequest.effect at h
    dsimp only at h
    split at h
    · next hset => exact .inr (.inr ⟨now, by rw [hset.1]⟩)
    · exact .inl h
  | updateStatus id' status message now => exact .inl h
  | generateText cfg prompt => exact .inl h

lemma selected_clear {now : Time} {next : String} {created : Bool} :
    id ∈ (serve fault (.clearSelected now next created) s).2.selectedIDs ↔
      id ∈ s.selectedIDs ∧ ¬performed fault id := by
  rw [mem_selectedIDs, mem_selectedIDs, selection_serve]
  unfold KeyRequest.effect
  cases s.selection id with
  | none => simp
  | some selected => simp

lemma insert_error {key : ApiKey} {e : String} (h : (serve none (.insert key) s).1 = .error e) :
    (serve none (.insert key) s).2 = s := by
  unfold serve carryOut at h ⊢
  dsimp only at h ⊢
  cases hinsert : s.insertOne key.stored with
  | none => exact ite_self _
  | some s' =>
    rw [hinsert] at h
    cases h

end KeyStore

/-! ## Between the requests of a selection -/

section Selecting

variable {c : KeyConfiguration} {i : ℕ} {p p' : KeyProgram KeyResult} {s : KeyStore} {id : String}
  {history : List (Event (Option KeyFault) KeyRequest KeyStore)}

lemma mem_selecting : id ∈ selecting c ↔ ∃ p ∈ c.threads, KeyProgram.stage p = .cleared id := by
  unfold selecting
  rw [List.mem_filterMap]
  refine exists_congr fun p => and_congr_right fun _ => ?_
  cases KeyProgram.stage p <;> simp [Stage.clearing?]

lemma selecting_of_set (h : id ∈ selecting ⟨s, c.threads.set i p', history⟩) :
    KeyProgram.stage p' = .cleared id ∨ id ∈ selecting c := by
  obtain ⟨p, hp, hstage⟩ := mem_selecting.mp h
  obtain hp | rfl := List.mem_or_eq_of_mem_set hp
  · exact .inr (mem_selecting.mpr ⟨p, hp, hstage⟩)
  · exact .inl hstage

/-- The others are where they were. -/
lemma mem_set_of_mem {q : KeyProgram KeyResult} (hi : c.threads[i]? = some p) (hq : q ∈ c.threads) (hne : q ≠ p) :
    q ∈ c.threads.set i p' := by
  obtain ⟨j, hj⟩ := List.getElem?_of_mem hq
  have hij : i ≠ j := by
    rintro rfl
    exact hne (Option.some_inj.mp (hj.symm.trans hi))
  exact List.mem_of_getElem? (i := j) (by rw [List.getElem?_set_ne hij, hj])

lemma selecting_set (hi : c.threads[i]? = some p) (h : id ∈ selecting c) :
    KeyProgram.stage p = .cleared id ∨ id ∈ selecting ⟨s, c.threads.set i p', history⟩ := by
  obtain ⟨q, hq, hstage⟩ := mem_selecting.mp h
  by_cases hqp : q = p
  · exact .inl (hqp ▸ hstage)
  · exact .inr (mem_selecting.mpr ⟨q, mem_set_of_mem hi hq hqp, hstage⟩)

lemma not_created_of_set (hi : c.threads[i]? = some p) (hstage : ∀ id, KeyProgram.stage p ≠ .created id)
    (h : ∀ q ∈ c.threads.set i p', ∀ id, KeyProgram.stage q ≠ .created id) :
    ∀ q ∈ c.threads, ∀ id, KeyProgram.stage q ≠ .created id := by
  intro q hq
  by_cases hqp : q = p
  · exact hqp ▸ hstage
  · exact h q (mem_set_of_mem hi hq hqp)

lemma mem_selecting_self (hi : c.threads[i]? = some p) (h : KeyProgram.stage p' = .cleared id) :
    id ∈ selecting ⟨s, c.threads.set i p', history⟩ :=
  mem_selecting.mpr ⟨p', List.mem_set (List.getElem?_eq_some_iff.mp hi).1 p', h⟩

end Selecting

/-- The calls that have cleared the selection are to set the same key. Unless a created key is still
to have the selection cleared for it, at most one key is selected, and it is that one. -/
structure Steady (c : KeyConfiguration) : Prop where
  orderly : ∀ p ∈ c.threads, KeyProgram.Orderly p
  begun : ∀ i p, c.threads[i]? = some p → KeyProgram.stage p ≠ .idle → ∃ e ∈ c.history, e.thread = i
  together : ∀ id ∈ selecting c, ∀ id' ∈ selecting c, id = id'
  settled : (∀ p ∈ c.threads, ∀ id, KeyProgram.stage p ≠ .created id) →
    ∀ id ∈ c.store.selectedIDs, (∀ id' ∈ c.store.selectedIDs, id = id') ∧ ∀ id' ∈ selecting c, id = id'

namespace Steady

variable {c : KeyConfiguration} {i : ℕ} {p p' : KeyProgram KeyResult} {s : KeyStore}
  {e : Event (Option KeyFault) KeyRequest KeyStore}

/-- One call goes on. -/
lemma advance (h : Steady c) (horderly : KeyProgram.Orderly p') (he : e.thread = i)
    (hcleared : ∀ id, KeyProgram.stage p' = .cleared id → ∀ id' ∈ selecting c, id' = id)
    (hsettled : (∀ q ∈ c.threads.set i p', ∀ id, KeyProgram.stage q ≠ .created id) → ∀ id ∈ s.selectedIDs,
      (∀ id' ∈ s.selectedIDs, id = id') ∧ ∀ id', KeyProgram.stage p' = .cleared id' ∨ id' ∈ selecting c → id = id') :
    Steady ⟨s, c.threads.set i p', c.history ++ [e]⟩ := by
  refine ⟨fun q hq => ?_, fun j q hj hstage => ?_, fun id hid id' hid' => ?_, fun hnone id hid => ?_⟩
  · obtain hq | rfl := List.mem_or_eq_of_mem_set hq
    · exact h.orderly q hq
    · exact horderly
  · by_cases hij : i = j
    · exact ⟨e, List.mem_append_right _ (List.mem_singleton.mpr rfl), he.trans hij⟩
    · have hj' : c.threads[j]? = some q := by
        rw [← hj]
        exact (List.getElem?_set_ne hij).symm
      obtain ⟨d, hd, hthread⟩ := h.begun j q hj' hstage
      exact ⟨d, List.mem_append_left _ hd, hthread⟩
  · obtain hstage | hid := selecting_of_set hid
    · obtain hstage' | hid' := selecting_of_set hid'
      · exact Stage.cleared.inj (hstage.symm.trans hstage')
      · exact (hcleared id hstage id' hid').symm
    · obtain hstage' | hid' := selecting_of_set hid'
      · exact hcleared id' hstage' id hid
      · exact h.together id hid id' hid'
  · obtain ⟨hselected, hselecting⟩ := hsettled hnone id hid
    exact ⟨hselected, fun id' hid' => hselecting id' (selecting_of_set hid')⟩

/-- A call that is not in a selection, and by which no key gets selected. -/
lemma advance_quiet (h : Steady c) (hi : c.threads[i]? = some p) (horderly : KeyProgram.Orderly p') (he : e.thread = i)
    (hstage : ∀ id, KeyProgram.stage p ≠ .created id) (hidle : KeyProgram.stage p' = .idle)
    (hselected : ∀ id ∈ s.selectedIDs, id ∈ c.store.selectedIDs) :
    Steady ⟨s, c.threads.set i p', c.history ++ [e]⟩ := by
  refine h.advance horderly he (fun id hcleared => ?_) fun hnone id hid => ?_
  · rw [hidle] at hcleared
    cases hcleared
  · obtain ⟨hone, hselecting⟩ := h.settled (not_created_of_set hi hstage hnone) id (hselected id hid)
    refine ⟨fun id' hid' => hone id' (hselected id' hid'), fun id' hid' => ?_⟩
    obtain hcleared | hid' := hid'
    · rw [hidle] at hcleared
      cases hcleared
    · exact hselecting id' hid'

end Steady

/-- A selected key that is inserted although the insertion reports an error. -/
lemma selected_insert_error {c : KeyConfiguration} {fault : Option KeyFault} {key : ApiKey} {e : String}
    (hcond : (KeyRequest.insert key).UndisturbedIn c fault) (hselected : key.selected)
    (h : (KeyStore.serve fault (.insert key) c.store).1 = .error e) :
    (∀ id ∈ (KeyStore.serve fault (.insert key) c.store).2.selectedIDs, id ∈ c.store.selectedIDs) ∨
      selecting c = [] ∧ ∀ id ∈ (KeyStore.serve fault (.insert key) c.store).2.selectedIDs, id = key.id := by
  cases fault with
  | none =>
    rw [KeyStore.insert_error h]
    exact .inl fun id hid => hid
  | some f =>
    by_cases hperformed : performed (some f) key.id
    · obtain ⟨hnone, hselecting⟩ := hcond hselected hperformed rfl
      refine .inr ⟨hselecting, fun id hid => ?_⟩
      obtain hid | ⟨key', hq, -, -, rfl⟩ | ⟨now, hq⟩ := KeyStore.selected_of_serve hid
      · rw [hnone] at hid
        cases hid
      · cases hq
        rfl
      · cases hq
    · refine .inl fun id hid => ?_
      obtain hid | ⟨key', hq, -, hperformed', -⟩ | ⟨now, hq⟩ := KeyStore.selected_of_serve hid
      · exact hid
      · cases hq
        exact absurd hperformed' hperformed
      · cases hq

namespace Steady

variable {c : KeyConfiguration} {i : ℕ} {fault : Option KeyFault}

lemma request_insert_unselected (h : Steady c) {key : ApiKey} {k : KeyReply (.insert key) → KeyProgram KeyResult}
    (hi : c.threads[i]? = some (.request (.insert key) k)) (hselected : ¬key.selected) :
    Steady ⟨(KeyStore.serve fault (.insert key) c.store).2,
      c.threads.set i (k (KeyStore.serve fault (.insert key) c.store).1),
      c.history ++ [⟨i, fault, .insert key, c.store⟩]⟩ := by
  have hsteps := h.orderly _ (List.mem_of_getElem? hi)
  have hidle : ∀ r, KeyProgram.stage (k r) = .idle := by
    intro r
    have hafter := (hsteps r).1
    cases r with
    | error e => exact hafter
    | ok _ => exact hafter.trans (if_neg hselected)
  refine h.advance_quiet hi (hsteps _).2 rfl (fun id hstage => by cases hstage) (hidle _) fun id hid => ?_
  obtain hid | ⟨key', hq, htrue, -⟩ | ⟨now, hq⟩ := KeyStore.selected_of_serve hid
  · exact hid
  · cases hq
    exact absurd htrue hselected
  · cases hq

lemma request_insert (h : Steady c) {key : ApiKey} {k : KeyReply (.insert key) → KeyProgram KeyResult}
    (hi : c.threads[i]? = some (.request (.insert key) k)) (hcond : (KeyRequest.insert key).UndisturbedIn c fault) :
    Steady ⟨(KeyStore.serve fault (.insert key) c.store).2,
      c.threads.set i (k (KeyStore.serve fault (.insert key) c.store).1),
      c.history ++ [⟨i, fault, .insert key, c.store⟩]⟩ := by
  by_cases hselected : key.selected
  swap
  · exact h.request_insert_unselected hi hselected
  have hsteps := h.orderly _ (List.mem_of_getElem? hi)
  have hafter := (hsteps (KeyStore.serve fault (.insert key) c.store).1).1
  cases hreply : (KeyStore.serve fault (.insert key) c.store).1 with
  | ok _ =>
    -- the created key is to have the selection cleared for it
    rw [hreply] at hafter
    have hcreated := hafter.trans (if_pos hselected)
    refine h.advance (hsteps _).2 rfl (fun id hcleared => ?_) fun hnone => ?_
    · rw [hcreated] at hcleared
      cases hcleared
    · exact absurd hcreated (hnone _ (List.mem_set (List.getElem?_eq_some_iff.mp hi).1 _) key.id)
  | error e =>
    rw [hreply] at hafter
    have hidle : KeyProgram.stage (k (.error e)) = .idle := hafter
    obtain hold | ⟨hselecting, hnew⟩ := selected_insert_error hcond hselected hreply
    · exact h.advance_quiet hi (hsteps _).2 rfl (fun id hstage => by cases hstage) hidle hold
    · refine h.advance (hsteps _).2 rfl (fun id hcleared => ?_) fun _ id hid => ⟨fun id' hid' => ?_, fun id' hid' => ?_⟩
      · rw [hidle] at hcleared
        cases hcleared
      · rw [hnew id hid, hnew id' hid']
      · rw [hidle, hselecting] at hid'
        obtain hcleared | hid' := hid'
        · cases hcleared
        · cases hid'

/-- A selection is cleared. -/
lemma request_clear (h : Steady c) {now : Time} {next : String} {created : Bool}
    {k : KeyReply (.clearSelected now next created) → KeyProgram KeyResult}
    (hi : c.threads[i]? = some (.request (.clearSelected now next created) k))
    (hcond : (KeyRequest.clearSelected now next created).UndisturbedIn c fault) :
    Steady ⟨(KeyStore.serve fault (.clearSelected now next created) c.store).2,
      c.threads.set i (k (KeyStore.serve fault (.clearSelected now next created) c.store).1),
      c.history ++ [⟨i, fault, .clearSelected now next created, c.store⟩]⟩ := by
  have hsteps := h.orderly _ (List.mem_of_getElem? hi)
  obtain ⟨hother, hleft, -⟩ := hcond
  cases fault with
  | none =>
    have hcleared : KeyProgram.stage (k (.ok ())) = .cleared next := (hsteps (.ok ())).1
    refine h.advance (hsteps _).2 rfl (fun id hstage id' hid' => ?_) fun _ id hid => ?_
    · obtain rfl := Stage.cleared.inj (hcleared.symm.trans hstage)
      exact hother (.inl rfl) id' hid'
    · exact absurd rfl (KeyStore.selected_clear.mp hid).2
  | some f =>
    have hidle : KeyProgram.stage (k (.error f.error)) = .idle := (hsteps (.error f.error)).1
    cases created with
    | false =>
      exact h.advance_quiet hi (hsteps _).2 rfl (fun id hstage => by cases hstage) hidle fun id hid =>
        (KeyStore.selected_clear.mp hid).1
    | true =>
      have hnext :
          ∀ id ∈ (KeyStore.serve (some f) (.clearSelected now next true) c.store).2.selectedIDs, id = next := by
        intro id hid
        obtain ⟨hid, hperformed⟩ := KeyStore.selected_clear.mp hid
        exact (hleft rfl rfl id hid).resolve_left hperformed
      refine h.advance (hsteps _).2 rfl (fun id hstage => ?_) fun _ id hid => ⟨fun id' hid' => ?_, fun id' hid' => ?_⟩
      · cases hidle.symm.trans hstage
      · rw [hnext id hid, hnext id' hid']
      · obtain hstage | hid' := hid'
        · cases hidle.symm.trans hstage
        · rw [hnext id hid, hother (.inr rfl) id' hid']

/-- A key is set. -/
lemma request_set (h : Steady c) {id : String} {now : Time} {k : KeyReply (.setSelected id now) → KeyProgram KeyResult}
    (hi : c.threads[i]? = some (.request (.setSelected id now) k)) :
    Steady ⟨(KeyStore.serve fault (.setSelected id now) c.store).2,
      c.threads.set i (k (KeyStore.serve fault (.setSelected id now) c.store).1),
      c.history ++ [⟨i, fault, .setSelected id now, c.store⟩]⟩ := by
  have hmem := List.mem_of_getElem? hi
  have hsteps := h.orderly _ hmem
  have hidle : KeyProgram.stage (k (KeyStore.serve fault (.setSelected id now) c.store).1) = .idle := (hsteps _).1
  have hself : id ∈ selecting c := mem_selecting.mpr ⟨_, hmem, rfl⟩
  refine h.advance (hsteps _).2 rfl (fun id' hstage => ?_) fun hnone => ?_
  · rw [hidle] at hstage
    cases hstage
  · have hsettled := h.settled (not_created_of_set hi (fun id' hstage => by cases hstage) hnone)
    have hset : ∀ id' ∈ (KeyStore.serve fault (.setSelected id now) c.store).2.selectedIDs, id' = id := by
      intro id' hid'
      obtain hid' | ⟨key, hq, -⟩ | ⟨now', hq⟩ := KeyStore.selected_of_serve hid'
      · exact (hsettled id' hid').2 id hself
      · cases hq
      · cases hq
        rfl
    refine fun id' hid' => ⟨fun id'' hid'' => ?_, fun id'' hid'' => ?_⟩
    · rw [hset id' hid', hset id'' hid'']
    · obtain hstage | hid'' := hid''
      · rw [hidle] at hstage
        cases hstage
      · rw [hset id' hid', h.together id hself id'' hid'']

/-- One request of one call. -/
lemma request (h : Steady c) {q : KeyRequest} {k : KeyReply q → KeyProgram KeyResult}
    (hi : c.threads[i]? = some (.request q k)) (hcond : q.UndisturbedIn c fault) :
    Steady ⟨(KeyStore.serve fault q c.store).2, c.threads.set i (k (KeyStore.serve fault q c.store).1),
      c.history ++ [⟨i, fault, q, c.store⟩]⟩ := by
  have hsteps := h.orderly _ (List.mem_of_getElem? hi)
  have hquiet : q.stage = .idle → KeyProgram.stage (k (KeyStore.serve fault q c.store).1) = .idle →
      (∀ key, q ≠ .insert key) → Steady ⟨(KeyStore.serve fault q c.store).2,
        c.threads.set i (k (KeyStore.serve fault q c.store).1), c.history ++ [⟨i, fault, q, c.store⟩]⟩ := by
    intro hstage hidle hinsert
    refine h.advance_quiet hi (hsteps _).2 rfl (fun id hcreated => ?_) hidle fun id hid => ?_
    · cases hstage.symm.trans hcreated
    · obtain hid | ⟨key, hq, -⟩ | ⟨now, rfl⟩ := KeyStore.selected_of_serve hid
      · exact hid
      · exact absurd hq (hinsert key)
      · cases hstage
  cases q with
  | insert key => exact h.request_insert hi hcond
  | clearSelected now next created => exact h.request_clear hi hcond
  | setSelected id now => exact h.request_set hi
  | updateSecret key now => exact hquiet rfl (hsteps _).1 fun key hq => by cases hq
  | find id => exact hquiet rfl (hsteps _).1 fun key hq => by cases hq
  | delete id => exact hquiet rfl (hsteps _).1 fun key hq => by cases hq
  | updateStatus id status message now => exact hquiet rfl (hsteps _).1 fun key hq => by cases hq
  | generateText cfg prompt => exact hquiet rfl (hsteps _).1 fun key hq => by cases hq

lemma step (h : Steady c) {choice : ℕ × Option KeyFault} (hchoice : Undisturbed c choice) :
    Steady (c.step KeyStore.serve choice) := by
  unfold Config.step
  split
  · next q k hi => exact h.request hi (hchoice _ hi q rfl)
  · exact h

lemma run (h : Steady c) {schedule : List (ℕ × Option KeyFault)}
    (hschedule : Throughout (Config.step KeyStore.serve) Undisturbed c schedule) :
    Steady (c.run KeyStore.serve schedule) := by
  induction schedule generalizing c with
  | nil => exact h
  | cons choice schedule ih => exact ih (h.step hschedule.1) hschedule.2

end Steady

/-! ## The selection is kept -/

/-- A key is selected, or a call that has cleared the selection is to set a key that is stored. -/
def Kept (c : KeyConfiguration) : Prop := c.store.selectedIDs ≠ [] ∨ ∃ id ∈ selecting c, c.store.Stored id

namespace Kept

variable {c : KeyConfiguration} {i : ℕ} {p p' : KeyProgram KeyResult} {s : KeyStore}
  {history : List (Event (Option KeyFault) KeyRequest KeyStore)}

lemma of_selected (id : String) (h : id ∈ c.store.selectedIDs) : Kept c := .inl (List.ne_nil_of_mem h)

/-- Keys that stay as they are, while the others are where they were. -/
lemma persists (h : Kept c) (hi : c.threads[i]? = some p) (hstage : ∀ id, KeyProgram.stage p ≠ .cleared id)
    (hs : ∀ id, c.store.selection id ≠ none → s.selection id = c.store.selection id) :
    Kept ⟨s, c.threads.set i p', history⟩ := by
  obtain hselected | ⟨id, hid, hstored⟩ := h
  · obtain ⟨id, hid⟩ := List.exists_mem_of_ne_nil _ hselected
    refine of_selected id (KeyStore.mem_selectedIDs.mpr ?_)
    rw [hs id (KeyStore.stored_iff.mp (KeyStore.stored_of_selected hid)), KeyStore.mem_selectedIDs.mp hid]
  · refine .inr ⟨id, (selecting_set hi hid).resolve_left (hstage id), KeyStore.stored_iff.mpr ?_⟩
    rw [hs id (KeyStore.stored_iff.mp hstored)]
    exact KeyStore.stored_iff.mp hstored

end Kept

namespace Kept

variable {c : KeyConfiguration} {i : ℕ} {fault : Option KeyFault} {p p' : KeyProgram KeyResult} {id : String}
  {history : List (Event (Option KeyFault) KeyRequest KeyStore)}

lemma clear (h : Kept c) (hi : c.threads[i]? = some p) {now : Time} {next : String} {created : Bool}
    (hstage : ∀ id, KeyProgram.stage p ≠ .cleared id)
    (hcleared : fault = none → KeyProgram.stage p' = .cleared next)
    (hcond : (KeyRequest.clearSelected now next created).UndisturbedIn c fault) :
    Kept ⟨(KeyStore.serve fault (.clearSelected now next created) c.store).2, c.threads.set i p', history⟩ := by
  have hstored : ∀ id, c.store.Stored id →
      (KeyStore.serve fault (.clearSelected now next created) c.store).2.Stored id := by
    intro id hid
    rw [KeyStore.stored_iff] at hid ⊢
    rw [KeyStore.selection_serve]
    exact Option.map_eq_none_iff.not.mpr hid
  by_cases hselected : c.store.selectedIDs = []
  · obtain hsome | ⟨id, hid, hidStored⟩ := h
    · exact absurd hselected hsome
    · exact .inr ⟨id, (selecting_set hi hid).resolve_left (hstage id), hstored id hidStored⟩
  · have hlast := hcond.2.2 hselected
    cases fault with
    | none => exact .inr ⟨next, mem_selecting_self hi (hcleared rfl), hstored next hlast⟩
    | some f =>
      obtain ⟨id, hid, hperformed⟩ := hlast
      have hleft : id ∈ (KeyStore.serve (some f) (.clearSelected now next created) c.store).2.selectedIDs :=
        KeyStore.selected_clear.mpr ⟨hid, hperformed⟩
      exact of_selected id hleft

lemma set (h : Kept c) (hi : c.threads[i]? = some p) {now : Time}
    (hstage : ∀ id', KeyProgram.stage p = .cleared id' → id' = id)
    (hcond : (KeyRequest.setSelected id now).UndisturbedIn c fault) :
    Kept ⟨(KeyStore.serve fault (.setSelected id now) c.store).2, c.threads.set i p', history⟩ := by
  have hselection : ∀ id', (KeyStore.serve fault (.setSelected id now) c.store).2.selection id' =
      if id = id' ∧ performed fault id' then (c.store.selection id').map fun _ => true else c.store.selection id' :=
    fun id' => KeyStore.selection_serve c.store fault (.setSelected id now) id'
  have hpersists : ∀ id' ∈ c.store.selectedIDs,
      id' ∈ (KeyStore.serve fault (.setSelected id now) c.store).2.selectedIDs := by
    intro id' hid'
    rw [KeyStore.mem_selectedIDs] at hid' ⊢
    rw [hselection, hid']
    exact ite_self _
  obtain hselected | ⟨id', hid', hstored⟩ := h
  · obtain ⟨id', hid'⟩ := List.exists_mem_of_ne_nil _ hselected
    exact of_selected id' (hpersists id' hid')
  · obtain hmine | hother := selecting_set hi hid'
    · obtain rfl := hstage id' hmine
      obtain hperformed | hselected := hcond hstored
      · refine of_selected id' (KeyStore.mem_selectedIDs.mpr ?_)
        obtain ⟨selected, hmark⟩ := Option.ne_none_iff_exists'.mp (KeyStore.stored_iff.mp hstored)
        rw [hselection, if_pos ⟨rfl, hperformed⟩, hmark]
        rfl
      · obtain ⟨id', hid'⟩ := List.exists_mem_of_ne_nil _ hselected
        exact of_selected id' (hpersists id' hid')
    · refine .inr ⟨id', hother, ?_⟩
      rw [KeyStore.stored_iff] at hstored ⊢
      rw [hselection]
      split
      · exact Option.map_eq_none_iff.not.mpr hstored
      · exact hstored

/-- A key is deleted: if it was selected, the selection is removed with it. -/
lemma delete (h : Kept c) (hi : c.threads[i]? = some p) (hstage : ∀ id, KeyProgram.stage p ≠ .cleared id)
    (hcond : (KeyRequest.delete id).UndisturbedIn c fault) :
    Kept ⟨(KeyStore.serve fault (.delete id) c.store).2, c.threads.set i p', history⟩ ∨
      RemovesSelected ⟨i, fault, .delete id, c.store⟩ := by
  have hselection : ∀ id', (KeyStore.serve fault (.delete id) c.store).2.selection id' =
      if id = id' ∧ performed fault id' then none else c.store.selection id' :=
    fun id' => KeyStore.selection_serve c.store fault (.delete id) id'
  by_cases hperformed : performed fault id
  swap
  · refine .inl (h.persists hi hstage fun id' _ => ?_)
    rw [hselection, if_neg]
    rintro ⟨rfl, h⟩
    exact hperformed h
  have hselected : c.store.selectedIDs ≠ [] → Kept ⟨(KeyStore.serve fault (.delete id) c.store).2,
      c.threads.set i p', history⟩ ∨ RemovesSelected ⟨i, fault, .delete id, c.store⟩ := by
    intro hselected
    obtain ⟨id', hid'⟩ := List.exists_mem_of_ne_nil _ hselected
    by_cases hsame : id = id'
    · subst hsame
      refine .inr ⟨id, rfl, hid', fun hstored => KeyStore.stored_iff.mp hstored ?_⟩
      exact (hselection id).trans (if_pos ⟨rfl, hperformed⟩)
    · refine .inl (of_selected id' (KeyStore.mem_selectedIDs.mpr ?_))
      rw [hselection, if_neg fun h => hsame h.1, KeyStore.mem_selectedIDs.mp hid']
  obtain hsome | ⟨id', hid', hstored⟩ := h
  · exact hselected hsome
  · by_cases hsame : id = id'
    · subst hsame
      exact hselected (hcond hperformed hid')
    · refine .inl (.inr ⟨id', (selecting_set hi hid').resolve_left (hstage id'), KeyStore.stored_iff.mpr ?_⟩)
      rw [hselection, if_neg fun h => hsame h.1]
      exact KeyStore.stored_iff.mp hstored

lemma request (h : Kept c) {q : KeyRequest} {k : KeyReply q → KeyProgram KeyResult}
    (hi : c.threads[i]? = some (.request q k)) (horderly : KeyProgram.Orderly (.request q k))
    (hcond : q.UndisturbedIn c fault) :
    Kept ⟨(KeyStore.serve fault q c.store).2, c.threads.set i (k (KeyStore.serve fault q c.store).1),
      c.history ++ [⟨i, fault, q, c.store⟩]⟩ ∨ RemovesSelected ⟨i, fault, q, c.store⟩ := by
  have hquiet : (∀ id, q.stage ≠ .cleared id) → (∀ id mark, mark ≠ none → q.effect fault id mark = mark) →
      Kept ⟨(KeyStore.serve fault q c.store).2, c.threads.set i (k (KeyStore.serve fault q c.store).1),
        c.history ++ [⟨i, fault, q, c.store⟩]⟩ := fun hstage heffect =>
    h.persists hi hstage fun id hmark => (KeyStore.selection_serve c.store fault q id).trans (heffect id _ hmark)
  cases q with
  | insert key =>
    refine .inl (hquiet (fun id hstage => by cases hstage) fun id mark hmark => ?_)
    exact if_neg fun hinserted => hmark hinserted.2.2
  | updateSecret key now => exact .inl (hquiet (fun id hstage => by cases hstage) fun _ _ _ => rfl)
  | find id => exact .inl (hquiet (fun id hstage => by cases hstage) fun _ _ _ => rfl)
  | delete id => exact h.delete hi (fun id' hstage => by cases hstage) hcond
  | clearSelected now next created =>
    refine .inl (h.clear hi (fun id hstage => ?_) (fun hfault => ?_) hcond)
    · cases created <;> cases hstage
    · subst hfault
      exact (horderly (.ok ())).1
  | setSelected id now => exact .inl (h.set hi (fun id' hstage => (Stage.cleared.inj hstage).symm) hcond)
  | updateStatus id status message now => exact .inl (hquiet (fun id hstage => by cases hstage) fun _ _ _ => rfl)
  | generateText cfg prompt => exact .inl (hquiet (fun id hstage => by cases hstage) fun _ _ _ => rfl)

lemma step (h : Kept c) (hsteady : Steady c) {choice : ℕ × Option KeyFault} (hchoice : Undisturbed c choice) :
    Kept (c.step KeyStore.serve choice) ∨
      ∃ e, (c.step KeyStore.serve choice).history = c.history ++ [e] ∧ RemovesSelected e := by
  unfold Config.step
  split
  · next q k hi =>
    obtain hkept | hremoves := h.request hi (hsteady.orderly _ (List.mem_of_getElem? hi)) (hchoice _ hi q rfl)
    · exact .inl hkept
    · exact .inr ⟨_, rfl, hremoves⟩
  · exact .inl h

/-- The selection is kept until a selected key is removed. -/
lemma run (h : Kept c) (hsteady : Steady c) {schedule : List (ℕ × Option KeyFault)}
    (hschedule : Throughout (Config.step KeyStore.serve) Undisturbed c schedule) :
    Kept (c.run KeyStore.serve schedule) ∨
      ∃ h, (c.run KeyStore.serve schedule).history = c.history ++ h ∧ ∃ e ∈ h, RemovesSelected e := by
  induction schedule generalizing c with
  | nil => exact .inl h
  | cons choice schedule ih =>
    obtain ⟨l, hl, -⟩ := @run_extends _ _ _ _ _ KeyStore.serve (c.step KeyStore.serve choice) schedule
    have hrun : c.run KeyStore.serve (choice :: schedule) =
        (c.step KeyStore.serve choice).run KeyStore.serve schedule := rfl
    rw [hrun]
    obtain hkept | ⟨e, he, hremoves⟩ := h.step hsteady hschedule.1
    · obtain hkept | ⟨l', hl', e, he, hremoves⟩ := ih hkept (hsteady.step hschedule.1) hschedule.2
      · exact .inl hkept
      · obtain ⟨hhistory, -⟩ | ⟨d, hhistory, -⟩ := @step_history _ _ _ _ _ KeyStore.serve c choice
        · exact .inr ⟨l', by rw [hl', hhistory], e, he, hremoves⟩
        · refine .inr ⟨d :: l', ?_, e, List.mem_cons_of_mem d he, hremoves⟩
          rw [hl', hhistory, List.append_assoc, List.singleton_append]
    · refine .inr ⟨e :: l, ?_, e, List.mem_cons_self, hremoves⟩
      rw [hl, he, List.append_assoc, List.singleton_append]

end Kept

/-! ## The laws in every run -/

/-- Between the calls no call is in a selection. -/
lemma Quiescent.idle {c : KeyConfiguration} (h : Quiescent c) (hsteady : Steady c) :
    ∀ p ∈ c.threads, KeyProgram.stage p = .idle := by
  intro p hp
  obtain ⟨i, hi⟩ := List.getElem?_of_mem hp
  obtain ⟨r, rfl⟩ | hnone := h i p hi
  · rfl
  · by_contra hstage
    obtain ⟨e, he, hthread⟩ := hsteady.begun i p hi hstage
    exact hnone e he hthread

lemma Quiescent.selecting {c : KeyConfiguration} (h : Quiescent c) (hsteady : Steady c) : selecting c = [] := by
  rw [List.eq_nil_iff_forall_not_mem]
  intro id hid
  obtain ⟨p, hp, hstage⟩ := mem_selecting.mp hid
  rw [h.idle hsteady p hp] at hstage
  cases hstage

section Start

variable [Library] [KeyLibrary]

lemma steady_startCalls {keys : KeyStore} (hkeys : keys.selectedIDs.length ≤ 1) (calls : List (KeyCallEnv × KeyCall)) :
    Steady (startCalls keys calls) := by
  have hcalm : ∀ p ∈ (startCalls keys calls).threads, KeyProgram.Calm p := by
    intro p hp
    obtain ⟨call, -, rfl⟩ := List.mem_map.mp hp
    exact KeyProgram.calm_program call.1 call.2
  have hselecting : ∀ id, id ∉ selecting (startCalls keys calls) := by
    intro id hid
    obtain ⟨p, hp, hstage⟩ := mem_selecting.mp hid
    rw [(hcalm p hp).1] at hstage
    cases hstage
  refine ⟨fun p hp => (hcalm p hp).2, fun i p hi hstage => ?_, fun id hid => ?_,
    fun _ id hid => ⟨fun id' hid' => ?_, ?_⟩⟩
  · exact absurd (hcalm p (List.mem_of_getElem? hi)).1 hstage
  · exact absurd hid (hselecting id)
  · exact KeyStore.length_selectedIDs.mp hkeys id hid id' hid'
  · exact fun id' hid' => absurd hid' (hselecting id')

/-- The laws hold in every run without disturbances, and no run dereferences nil. -/
theorem selectionLaws_of_undisturbed {keys : KeyStore} (hkeys : keys.selectedIDs.length ≤ 1)
    (calls : List (KeyCallEnv × KeyCall)) {schedule : List (ℕ × Option KeyFault)}
    (h : Throughout (Config.step KeyStore.serve) Undisturbed (startCalls keys calls) schedule) :
    SelectionLaws (startCalls keys calls) schedule := by
  have hsteady : ∀ l, l <+: schedule → Steady ((startCalls keys calls).run KeyStore.serve l) := fun l hl =>
    (steady_startCalls hkeys calls).run (h.initial hl)
  refine ⟨fun l hl hquiescent => ?_, fun l₁ l₂ hl _ hquiescent hselected hnone => ?_, fun l _ p hp hnil => ?_⟩
  · refine KeyStore.length_selectedIDs.mpr fun id hid => ((hsteady l hl).settled (fun p hp id hstage => ?_) id hid).1
    rw [hquiescent.idle (hsteady l hl) p hp] at hstage
    cases hstage
  · have hl₁ : l₁ <+: schedule := (List.prefix_append l₁ l₂).trans hl
    have hrest : Throughout (Config.step KeyStore.serve) Undisturbed
        ((startCalls keys calls).run KeyStore.serve l₁) l₂ := (h.initial hl).of_append
    have hkept : Kept ((startCalls keys calls).run KeyStore.serve l₁) := .inl hselected
    have hselecting := hquiescent.selecting (hsteady _ hl)
    rw [run_append] at hnone hselecting ⊢
    obtain (hsome | ⟨id, hid, -⟩) | hremoved := hkept.run (hsteady l₁ hl₁) hrest
    · exact absurd hnone hsome
    · rw [hselecting] at hid
      cases hid
    · exact hremoved
  · have hreturns : ∀ p ∈ (startCalls keys calls).threads, p.Returns (Guarded fun _ => True) := by
      intro p hp
      obtain ⟨call, -, rfl⟩ := List.mem_map.mp hp
      exact (yields_program call.1 call.2).returns
    have hguarded := @run_returns _ _ _ _ _ KeyStore.serve _ _ hreturns l p hp
    rw [hnil] at hguarded
    exact hguarded rfl

end Start

section Examples

lemma quiescent_of_returned {c : KeyConfiguration} (h : ∀ p ∈ c.threads, (KeyProgram.next p).isNone) : Quiescent c := by
  intro i p hi
  have hnone := h p (List.mem_of_getElem? hi)
  cases p with
  | done r => exact .inl ⟨r, rfl⟩
  | request q k => cases hnone

namespace Sample

@[reducible] def plainUpper : KeyLibrary := ⟨Char.toUpper⟩

/-- A stored key carries its ciphertext only. -/
def storedKey (id ciphertext : String) (selected : Bool) : ApiKey where
  id := id
  encryptedKey := ciphertext
  keyNonce := "n"
  keyVersion := "v1"
  keyFingerprint := ciphertext
  maskedKeyPreview := ciphertext
  provider := "groq"
  selected := selected

/-- Two active keys, the first of them selected. -/
def keys : KeyStore where
  docs := [storedKey "a" "x" true, storedKey "b" "y" false]
  nodup := by decide

def plainBox : Box := ⟨fun plain => .ok (plain, "n"), fun ciphertext _ _ => .ok ciphertext, "v1", fun plain => plain⟩

def selecting (id : String) : KeyCallEnv × KeyCall := (⟨"", 0, some plainBox⟩, .selectKey id)

/-- Requests of these calls, all of them answered. -/
def servedKeys (threads : List ℕ) : List (ℕ × Option KeyFault) := threads.map fun i => (i, none)

end Sample

open Sample

attribute [local instance] asciiLibrary plainUpper

/-- The second call clears the selection only after the first has set its key. -/
theorem selectionLaws_of_undisturbed_overlapping :
    SelectionLaws (startCalls keys [Sample.selecting "a", Sample.selecting "b"])
        (servedKeys [0, 1, 0, 0, 1, 1, 0, 1]) ∧
      ((startCalls keys [Sample.selecting "a", Sample.selecting "b"]).run KeyStore.serve
        (servedKeys [0, 1, 0, 0, 1, 1, 0, 1])).store.selectedIDs = ["b"] :=
  ⟨selectionLaws_of_undisturbed (by decide) [Sample.selecting "a", Sample.selecting "b"] (by decide), by decide⟩

/-- Both calls clear the selection before either of them sets its key. -/
theorem selected_twice : ¬SelectionLaws (startCalls keys [Sample.selecting "a", Sample.selecting "b"])
    (servedKeys [0, 1, 0, 1, 0, 1, 0, 1]) := by
  intro h
  have hreturned : ∀ p ∈ ((startCalls keys [Sample.selecting "a", Sample.selecting "b"]).run KeyStore.serve
      (servedKeys [0, 1, 0, 1, 0, 1, 0, 1])).threads, (KeyProgram.next p).isNone := by decide
  have htwice : ¬((startCalls keys [Sample.selecting "a", Sample.selecting "b"]).run KeyStore.serve
      (servedKeys [0, 1, 0, 1, 0, 1, 0, 1])).store.selectedIDs.length ≤ 1 := by decide
  exact htwice (h.one _ (List.prefix_refl _) (quiescent_of_returned hreturned))

end Examples

end ErgGo.AiContent
