import Mathlib.Data.Int.Order.Basic
import Mathlib.Data.List.Nodup

/-!
# The static catalog

Service instances are filed under their names. What `Find` must answer is said in terms of the
calls made before it: the latest registration of an instance counts, until it is deregistered
or expires.
-/

namespace ErgGo.Discovery

structure Service where
  id : String
  name : String
  version : String
  address : String
  tags : List String
  metadata : List (String × String)
  /-- None is the zero time. -/
  ttl : Option ℤ
  deriving DecidableEq

/-- The heartbeat of the instance is overdue. -/
def Service.expired (svc : Service) (now : ℤ) : Bool := svc.ttl.any (· < now)

def Service.hasAll (svc : Service) (tags : List String) : Bool := tags.all (· ∈ svc.tags)

/-- The services under each name. -/
abbrev StaticCatalog := String → Option (List Service)

def newStaticCatalog : StaticCatalog := fun _ => none

namespace StaticCatalog

def register (c : StaticCatalog) (svc : Service) : StaticCatalog :=
  Function.update c svc.name (some ((c svc.name).getD [] ++ [svc]))

def deregister (c : StaticCatalog) (id : String) : StaticCatalog :=
  fun name => (c name).map fun svcs => svcs.filter (·.id ≠ id)

def find (c : StaticCatalog) (now : ℤ) (name : String) (tags : List String) : List Service :=
  match c name with
  | none => []
  | some svcs => if tags = [] then svcs else svcs.filter fun svc => !svc.expired now && svc.hasAll tags

end StaticCatalog

inductive Call where
  | register (svc : Service)
  | deregister (id : String)
  | find (now : ℤ) (name : String) (tags : List String)
  deriving DecidableEq

def step (c : StaticCatalog) : Call → StaticCatalog
  | .register svc => c.register svc
  | .deregister id => c.deregister id
  | .find .. => c

/-- The catalog after these calls. -/
def run (history : List Call) : StaticCatalog := history.foldl step newStaticCatalog

/-- The calls do not register this instance. -/
def NotRegistered (id : String) (calls : List Call) : Prop := ∀ svc, .register svc ∈ calls → svc.id ≠ id

/-- The latest registration of the instance, which has not been deregistered since. -/
def Latest (history : List Call) (svc : Service) : Prop :=
  ∃ after, .register svc :: after <:+ history ∧ .deregister svc.id ∉ after ∧ NotRegistered svc.id after

/-- What the contract asks of a query after these calls. -/
structure FindsLatest (history : List Call) (now : ℤ) (name : String) (tags : List String) : Prop where
  mem_iff : ∀ svc, svc ∈ (run history).find now name tags ↔
    Latest history svc ∧ svc.name = name ∧ svc.hasAll tags ∧ ¬svc.expired now
  ids_nodup : (((run history).find now name tags).map Service.id).Nodup

/-- No registration under the name that has all the tags and stands, unexpired where there are
tags, is followed by another of its instance; where there are no tags, none is expired. -/
def SingleAndFresh (history : List Call) (now : ℤ) (name : String) (tags : List String) : Prop :=
  ∀ svc after, .register svc :: after <:+ history → .deregister svc.id ∉ after →
    svc.name = name → svc.hasAll tags → (tags = [] ∨ ¬svc.expired now) →
      NotRegistered svc.id after ∧ ¬svc.expired now

/-- The registrations that have not been deregistered since. -/
def standing : List Call → List Service
  | [] => []
  | .register svc :: after => if .deregister svc.id ∈ after then standing after else svc :: standing after
  | .deregister _ :: after | .find .. :: after => standing after

/-- What a query returns of the standing registrations. -/
def answers (now : ℤ) (name : String) (tags : List String) (svc : Service) : Bool :=
  svc.name = name && (tags = [] || !svc.expired now) && svc.hasAll tags

lemma getD_foldl_step (c : StaticCatalog) (history : List Call) (name : String) :
    ((history.foldl step c) name).getD [] =
      ((c name).getD []).filter (fun svc => .deregister svc.id ∉ history) ++
        (standing history).filter (·.name = name) := by
  induction history generalizing c with
  | nil => simp [standing]
  | cons call after ih =>
    rw [List.foldl_cons, ih]
    cases call with
    | register svc =>
      by_cases hname : name = svc.name
      · subst hname
        by_cases hgone : Call.deregister svc.id ∈ after
        · simp [step, StaticCatalog.register, standing, hgone]
        · simp [step, StaticCatalog.register, standing, hgone]
      · by_cases hgone : Call.deregister svc.id ∈ after
        · simp [step, StaticCatalog.register, standing, hgone, hname]
        · simp [step, StaticCatalog.register, standing, hgone, hname, Ne.symm hname]
    | deregister id =>
      have hentries : ((c.deregister id) name).getD [] = ((c name).getD []).filter (·.id ≠ id) := by
        cases h : c name <;> simp [StaticCatalog.deregister, h]
      simp [step, standing, hentries, List.filter_filter, Bool.and_comm]
    | find now name tags => simp [step, standing]

/-- A query returns standing registrations. -/
lemma find_run (history : List Call) (now : ℤ) (name : String) (tags : List String) :
    (run history).find now name tags = (standing history).filter (answers now name tags) := by
  have hentries : ((run history) name).getD [] = (standing history).filter (·.name = name) := by
    simpa [run, newStaticCatalog] using getD_foldl_step newStaticCatalog history name
  have hfind : (run history).find now name tags =
      (((run history) name).getD []).filter fun svc => tags = [] || (!svc.expired now && svc.hasAll tags) := by
    unfold StaticCatalog.find
    cases run history name <;> by_cases htags : tags = [] <;> simp [htags]
  rw [hfind, hentries, List.filter_filter]
  refine List.filter_congr fun svc _ => ?_
  by_cases htags : tags = []
  · simp [answers, htags, Service.hasAll]
  · simp [answers, htags, Bool.and_assoc, Bool.and_comm]

lemma mem_standing_iff {history : List Call} {svc : Service} :
    svc ∈ standing history ↔ ∃ after, .register svc :: after <:+ history ∧ .deregister svc.id ∉ after := by
  induction history with
  | nil => simp [standing]
  | cons call history ih =>
    simp only [List.suffix_cons_iff, or_and_right, exists_or, ← ih]
    cases call with
    | register other =>
      by_cases hgone : Call.deregister other.id ∈ history
      · rw [standing, if_pos hgone]
        constructor
        · exact .inr
        · rintro (⟨after, h, hstands⟩ | h)
          · obtain ⟨hcall, rfl⟩ := List.cons.inj h
            cases hcall
            exact absurd hgone hstands
          · exact h
      · rw [standing, if_neg hgone, List.mem_cons]
        refine or_congr_left ⟨?_, ?_⟩
        · rintro rfl
          exact ⟨history, rfl, hgone⟩
        · rintro ⟨after, h, -⟩
          cases (List.cons.inj h).1
          rfl
    | deregister id =>
      refine (or_iff_right ?_).symm
      rintro ⟨after, h, -⟩
      cases (List.cons.inj h).1
    | find now name tags =>
      refine (or_iff_right ?_).symm
      rintro ⟨after, h, -⟩
      cases (List.cons.inj h).1

lemma Latest.mem_standing {history : List Call} {svc : Service} (h : Latest history svc) : svc ∈ standing history := by
  obtain ⟨after, hafter, hstands, -⟩ := h
  exact mem_standing_iff.mpr ⟨after, hafter, hstands⟩

lemma Latest.cons {history : List Call} {svc : Service} (h : Latest history svc) (call : Call) :
    Latest (call :: history) svc := by
  obtain ⟨after, hafter, hlatest⟩ := h
  exact ⟨after, hafter.trans (List.suffix_cons call history), hlatest⟩

/-- The first call registers the instance, or it is registered later. -/
lemma Latest.cases {history : List Call} {call : Call} {svc : Service} (h : Latest (call :: history) svc) :
    NotRegistered svc.id history ∨ Latest history svc := by
  obtain ⟨after, hafter, hstands, hlatest⟩ := h
  obtain hhead | htail := List.suffix_cons_iff.mp hafter
  · exact .inl ((List.cons.inj hhead).2 ▸ hlatest)
  · exact .inr ⟨after, htail, hstands, hlatest⟩

lemma NotRegistered.notMem_standing {history : List Call} {svc : Service} (h : NotRegistered svc.id history) :
    svc ∉ standing history := by
  intro hmem
  obtain ⟨after, hafter, -⟩ := mem_standing_iff.mp hmem
  exact h svc (hafter.subset List.mem_cons_self) rfl

lemma latest_cons_iff {history : List Call} {svc : Service} (h : svc ∈ standing history) (call : Call) :
    Latest (call :: history) svc ↔ Latest history svc :=
  ⟨fun hlatest => hlatest.cases.resolve_left fun hnot => hnot.notMem_standing h, fun hlatest => hlatest.cons call⟩

section Query

variable (now : ℤ) (name : String) (tags : List String)

lemma answers_iff {svc : Service} : answers now name tags svc ↔
    svc.name = name ∧ svc.hasAll tags ∧ (tags = [] ∨ ¬svc.expired now) := by
  simp only [answers, Bool.and_eq_true, Bool.or_eq_true, decide_eq_true_eq, Bool.not_eq_true', Bool.not_eq_true,
    and_assoc, and_comm]

lemma singleAndFresh_cons_iff {history : List Call} {call : Call} :
    SingleAndFresh (call :: history) now name tags ↔
      (∀ svc, call = .register svc → .deregister svc.id ∉ history → answers now name tags svc →
        NotRegistered svc.id history ∧ ¬svc.expired now) ∧ SingleAndFresh history now name tags := by
  constructor
  · intro h
    refine ⟨fun svc hcall hstands hanswers => ?_, fun svc after hafter => ?_⟩
    · obtain ⟨hname, htags, hfresh⟩ := (answers_iff now name tags).mp hanswers
      exact h svc history (hcall ▸ List.suffix_rfl) hstands hname htags hfresh
    · exact h svc after (hafter.trans (List.suffix_cons call history))
  · rintro ⟨hhead, htail⟩ svc after hafter hstands hname htags hfresh
    obtain heq | hlater := List.suffix_cons_iff.mp hafter
    · obtain ⟨hcall, rfl⟩ := List.cons.inj heq
      exact hhead svc hcall.symm hstands ((answers_iff now name tags).mpr ⟨hname, htags, hfresh⟩)
    · exact htail svc after hlater hstands hname htags hfresh

/-- What stands and is returned is the latest of its instance, one entry for each, exactly where
every registration is. -/
lemma returned_iff (history : List Call) :
    ((∀ svc ∈ (standing history).filter (answers now name tags), Latest history svc ∧ ¬svc.expired now) ∧
      (((standing history).filter (answers now name tags)).map Service.id).Nodup) ↔
      SingleAndFresh history now name tags := by
  induction history with
  | nil => simp [standing, SingleAndFresh]
  | cons call history ih =>
    rw [singleAndFresh_cons_iff, ← ih]
    have hrest : (∀ svc ∈ (standing history).filter (answers now name tags),
        Latest (call :: history) svc ∧ ¬svc.expired now) ↔
        ∀ svc ∈ (standing history).filter (answers now name tags), Latest history svc ∧ ¬svc.expired now := by
      refine forall₂_congr fun svc hmem => ?_
      rw [latest_cons_iff (List.mem_of_mem_filter hmem)]
    by_cases hhead : ∃ svc, call = .register svc ∧ .deregister svc.id ∉ history ∧ answers now name tags svc
    · obtain ⟨svc, rfl, hstands, hanswers⟩ := hhead
      rw [standing, if_neg hstands, List.filter_cons_of_pos hanswers, List.forall_mem_cons, hrest, List.map_cons,
        List.nodup_cons]
      constructor
      · rintro ⟨⟨hsvc, hall⟩, hid, hnodup⟩
        refine ⟨fun other hother _ _ => ?_, hall, hnodup⟩
        cases hother
        -- were it registered again, the later registration would be returned too
        refine ⟨hsvc.1.cases.resolve_right fun hlater => hid ?_, hsvc.2⟩
        exact List.mem_map_of_mem (List.mem_filter.mpr ⟨hlater.mem_standing, hanswers⟩)
      · rintro ⟨hsvc, hall, hnodup⟩
        obtain ⟨hnot, hfresh⟩ := hsvc svc rfl hstands hanswers
        refine ⟨⟨⟨⟨history, List.suffix_rfl, hstands, hnot⟩, hfresh⟩, hall⟩, fun hid => ?_, hnodup⟩
        obtain ⟨other, hother, hid⟩ := List.mem_map.mp hid
        obtain ⟨after, hafter, -⟩ := mem_standing_iff.mp (List.mem_of_mem_filter hother)
        exact hnot other (hafter.subset List.mem_cons_self) hid
    · have hstanding : (standing (call :: history)).filter (answers now name tags) =
          (standing history).filter (answers now name tags) := by
        cases call with
        | register svc =>
          by_cases hgone : Call.deregister svc.id ∈ history
          · rw [standing, if_pos hgone]
          · rw [standing, if_neg hgone, List.filter_cons_of_neg fun hanswers => hhead ⟨svc, rfl, hgone, hanswers⟩]
        | deregister id => rfl
        | find now name tags => rfl
      rw [hstanding, hrest]
      refine (and_iff_right fun svc hcall hstands hanswers => ?_).symm
      exact absurd ⟨svc, hcall, hstands, hanswers⟩ hhead

/-- Queries are answered as the contract asks exactly where no instance that they return was
registered again or, without tags, has expired. -/
theorem findsLatest_iff (history : List Call) :
    FindsLatest history now name tags ↔ SingleAndFresh history now name tags := by
  rw [← returned_iff]
  have hmem : ∀ svc, svc ∈ (run history).find now name tags ↔ svc ∈ standing history ∧ answers now name tags svc := by
    intro svc
    rw [find_run, List.mem_filter]
  constructor
  · intro h
    refine ⟨fun svc hsvc => ?_, find_run history now name tags ▸ h.ids_nodup⟩
    obtain ⟨hlatest, -, -, hfresh⟩ := (h.mem_iff svc).mp ((hmem svc).mpr (List.mem_filter.mp hsvc))
    exact ⟨hlatest, hfresh⟩
  · rintro ⟨hall, hnodup⟩
    refine ⟨fun svc => ?_, find_run history now name tags ▸ hnodup⟩
    rw [hmem]
    constructor
    · intro hsvc
      obtain ⟨hname, htags, -⟩ := (answers_iff now name tags).mp hsvc.2
      obtain ⟨hlatest, hfresh⟩ := hall svc (List.mem_filter.mpr hsvc)
      exact ⟨hlatest, hname, htags, hfresh⟩
    · rintro ⟨hlatest, hname, htags, hfresh⟩
      exact ⟨hlatest.mem_standing, (answers_iff now name tags).mpr ⟨hname, htags, .inr hfresh⟩⟩

end Query

section Sample

def Sample.crawler (address : String) (ttl : Option ℤ) : Service :=
  { id := "crawler-1", name := "crawler", version := "v1", address, tags := ["grpc"], metadata := [], ttl }

/-- A second registration does not replace the first, and without tags expiry is not looked at. -/
theorem register_again_duplicates :
    ¬FindsLatest [.register (Sample.crawler "10.0.1.5:8083" none), .register (Sample.crawler "10.0.1.6:8083" none)]
        0 "crawler" ["grpc"] ∧
      ¬FindsLatest [.register (Sample.crawler "10.0.1.5:8083" (some 10))] 20 "crawler" [] :=
  ⟨fun h => absurd h.ids_nodup (by decide),
    fun h => ((h.mem_iff (Sample.crawler "10.0.1.5:8083" (some 10))).mp (by decide)).2.2.2 (by decide)⟩

end Sample

end ErgGo.Discovery
