import ErgGo.Lib.Bytes

/-!
# Comma-separated values

`csv.Writer`, and a reader of its format: a record to a line, the fields divided by commas, a
field in quotation marks taken as it stands with its marks doubled.
-/

namespace Go.Csv
open Bytes

def comma : UInt8 := 0x2C

def quote : UInt8 := 0x22

def newline : UInt8 := 0x0A

def carriageReturn : UInt8 := 0x0D

/-! ## Writing -/

/-- The bytes that say where a field ends. -/
def special (b : UInt8) : Bool := b = newline || b = carriageReturn || b = quote || b = comma

def fieldNeedsQuotes (field : Bytes) : Bool :=
  if field = [] then false
  else if field = bytes "\\." then true
  else field.any special || (decodeRune field).any isSpace

def escape (field : Bytes) : Bytes := field.flatMap fun b => if b = quote then [quote, quote] else [b]

def writeField (field : Bytes) : Bytes := if fieldNeedsQuotes field then quote :: (escape field ++ [quote]) else field

/-- `Writer.Write`. -/
def write (record : List Bytes) : Bytes := [comma].intercalate (record.map writeField) ++ [newline]

def writeAll (records : List (List Bytes)) : Bytes := records.flatMap write

/-! ## Reading -/

/-- Where a reader stands: at the beginning of a line or of another field, within a field, behind
its closing quotation mark, behind a carriage return, or at what is no record. -/
inductive State where
  | lineStart
  | fieldStart
  | bare
  | quoted
  | closed
  | returned
  | bad
  deriving DecidableEq

structure Reader where
  state : State
  field : Bytes := []
  record : List Bytes := []
  records : List (List Bytes) := []

namespace Reader

def endField (r : Reader) : Reader := { r with state := .fieldStart, field := [], record := r.record ++ [r.field] }

def endRecord (r : Reader) : Reader := { state := .lineStart, records := r.records ++ [r.record ++ [r.field]] }

/-- A byte that may end the field. -/
def separate (r : Reader) (b : UInt8) (otherwise : Reader) : Reader :=
  if b = comma then r.endField
  else if b = newline then r.endRecord
  else if b = carriageReturn then { r with state := .returned }
  else otherwise

def step (r : Reader) (b : UInt8) : Reader :=
  match r.state with
  | .lineStart | .fieldStart =>
    if b = quote then { r with state := .quoted }
    else r.separate b { r with state := .bare, field := r.field ++ [b] }
  | .bare => r.separate b (if b = quote then { r with state := .bad } else { r with field := r.field ++ [b] })
  | .quoted => if b = quote then { r with state := .closed } else { r with field := r.field ++ [b] }
  | .closed =>
    if b = quote then { r with state := .quoted, field := r.field ++ [b] }
    else r.separate b { r with state := .bad }
  | .returned => if b = newline then r.endRecord else { r with state := .bad }
  | .bad => r

def run (r : Reader) (text : Bytes) : Reader := text.foldl step r

/-- The records, of which the last line need not be ended. -/
def finish (r : Reader) : Option (List (List Bytes)) :=
  match r.state with
  | .lineStart => some r.records
  | .fieldStart | .bare | .closed => some (r.records ++ [r.record ++ [r.field]])
  | .quoted | .returned | .bad => none

end Reader

def parse (text : Bytes) : Option (List (List Bytes)) := (Reader.run { state := .lineStart } text).finish

/-! ## What is written is read -/

namespace Reader

lemma run_append (r : Reader) (s t : Bytes) : r.run (s ++ t) = (r.run s).run t := List.foldl_append

lemma run_cons (r : Reader) (b : UInt8) (s : Bytes) : r.run (b :: s) = (r.step b).run s := rfl

/-- Nothing of a field is read. -/
def AtField (r : Reader) : Prop := (r.state = .lineStart ∨ r.state = .fieldStart) ∧ r.field = []

/-- The field may end here. -/
def MayEnd (r : Reader) : Prop := r.state = .lineStart ∨ r.state = .fieldStart ∨ r.state = .bare ∨ r.state = .closed

lemma MayEnd.step_comma {r : Reader} (h : r.MayEnd) : r.step comma = r.endField := by
  unfold step
  obtain h | h | h | h := h <;> rw [h] <;> rfl

lemma MayEnd.step_newline {r : Reader} (h : r.MayEnd) : r.step newline = r.endRecord := by
  unfold step
  obtain h | h | h | h := h <;> rw [h] <;> rfl

lemma separate_of_not_special {r otherwise : Reader} {b : UInt8} (h : ¬special b) :
    r.separate b otherwise = otherwise := by
  simp only [special, Bool.or_eq_true, decide_eq_true_eq, not_or] at h
  rw [separate, if_neg h.2, if_neg h.1.1.1, if_neg h.1.1.2]

lemma ne_quote_of_not_special {b : UInt8} (h : ¬special b) : b ≠ quote := by
  rintro rfl
  exact h (by decide)

lemma run_bare {r : Reader} (hr : r.state = .bare) {field : Bytes} (h : ∀ b ∈ field, ¬special b) :
    r.run field = { r with field := r.field ++ field } := by
  induction field generalizing r with
  | nil => simp [run]
  | cons b field ih =>
    have hb := h b List.mem_cons_self
    have hstep : r.step b = { r with field := r.field ++ [b] } := by
      unfold step
      rw [hr]
      dsimp only
      rw [separate_of_not_special hb, if_neg (ne_quote_of_not_special hb)]
    rw [run_cons, hstep, ih (r := { r with field := r.field ++ [b] }) hr fun b hb => h b (List.mem_cons_of_mem _ hb)]
    simp

lemma run_escape {r : Reader} (hr : r.state = .quoted) (field : Bytes) :
    r.run (escape field) = { r with field := r.field ++ field } := by
  induction field generalizing r with
  | nil => simp [run, escape]
  | cons b field ih =>
    have hbyte : r.run (if b = quote then [quote, quote] else [b]) = { r with field := r.field ++ [b] } := by
      split
      · rename_i hb
        subst hb
        have hfirst : r.step quote = { r with state := .closed } := by
          unfold step
          rw [hr]
          rfl
        rw [run_cons, hfirst]
        change Reader.mk .quoted (r.field ++ [quote]) r.record r.records = _
        rw [← hr]
      · rename_i hb
        change r.step b = _
        unfold step
        rw [hr]
        exact if_neg hb
    rw [escape, List.flatMap_cons, run_append, hbyte]
    rw [escape] at ih
    rw [ih (r := { r with field := r.field ++ [b] }) hr]
    simp

/-- A field is read up to where it may end. -/
lemma run_writeField {r : Reader} (hr : r.AtField) (field : Bytes) :
    ∃ state, (Reader.mk state field r.record r.records).MayEnd ∧
      r.run (writeField field) = ⟨state, field, r.record, r.records⟩ := by
  obtain ⟨hstate, hfield⟩ := hr
  unfold writeField
  split
  · refine ⟨.closed, .inr (.inr (.inr rfl)), ?_⟩
    have hopen : r.step quote = { r with state := .quoted } := by
      unfold step
      obtain h | h := hstate <;> rw [h] <;> rfl
    rw [run_cons, hopen, run_append, run_escape rfl, hfield]
    rfl
  · rename_i hquotes
    cases field with
    | nil =>
      refine ⟨r.state, hstate.imp_right .inl, ?_⟩
      obtain ⟨state, before, record, records⟩ := r
      obtain rfl : before = [] := hfield
      rfl
    | cons b field =>
      have hspecial : ∀ c ∈ b :: field, ¬special c := by
        intro c hc hspecial
        refine hquotes ?_
        have hany : (b :: field).any special := List.any_eq_true.mpr ⟨c, hc, hspecial⟩
        rw [fieldNeedsQuotes, if_neg (List.cons_ne_nil b field), hany]
        simp
      have hb := hspecial b List.mem_cons_self
      refine ⟨.bare, .inr (.inr (.inl rfl)), ?_⟩
      have hstep : r.step b = { r with state := .bare, field := [b] } := by
        unfold step
        obtain h | h := hstate
        all_goals
          rw [h]
          dsimp only
          rw [if_neg (ne_quote_of_not_special hb), separate_of_not_special hb, hfield]
          rfl
      rw [run_cons, hstep, run_bare rfl fun c hc => hspecial c (List.mem_cons_of_mem b hc)]
      rfl

lemma run_write {r : Reader} (hr : r.AtField) {record : List Bytes} (hrecord : record ≠ []) :
    r.run (write record) = { state := .lineStart, records := r.records ++ [r.record ++ record] } := by
  induction record generalizing r with
  | nil => exact absurd rfl hrecord
  | cons field record ih =>
    obtain ⟨state, hend, hfield⟩ := run_writeField hr field
    cases record with
    | nil =>
      have hline : write [field] = writeField field ++ [newline] := by simp [write, List.intercalate]
      rw [hline, run_append, hfield, run_cons, hend.step_newline]
      rfl
    | cons field' record =>
      have hsplit : write (field :: field' :: record) = writeField field ++ comma :: write (field' :: record) := by
        simp [write, List.intercalate]
      rw [hsplit, run_append, hfield, run_cons, hend.step_comma, ih ⟨.inr rfl, rfl⟩ (List.cons_ne_nil _ _)]
      simp [endField]

lemma run_writeAll {records : List (List Bytes)} (hrecords : ∀ record ∈ records, record ≠ [])
    (before : List (List Bytes)) : run { state := .lineStart, records := before } (writeAll records) =
      { state := .lineStart, records := before ++ records } := by
  induction records generalizing before with
  | nil => simp [writeAll, run]
  | cons record records ih =>
    rw [writeAll, List.flatMap_cons, run_append, run_write ⟨.inl rfl, rfl⟩ (hrecords record List.mem_cons_self)]
    have hrest := ih (fun record hrecord => hrecords record (List.mem_cons_of_mem _ hrecord)) (before ++ [record])
    rw [writeAll] at hrest
    rw [List.nil_append, hrest, List.append_assoc, List.singleton_append]

end Reader

/-- Records that have fields are read as they were written. -/
theorem parse_writeAll {records : List (List Bytes)} (hrecords : ∀ record ∈ records, record ≠ []) :
    parse (writeAll records) = some records := by
  unfold parse
  rw [Reader.run_writeAll hrecords []]
  rfl

/-! ## Bytes of the text -/

lemma mem_writeField {b : UInt8} (hb : b ≠ quote) {field : Bytes} : b ∈ writeField field ↔ b ∈ field := by
  have hescape : b ∈ escape field ↔ b ∈ field := by
    rw [escape, List.mem_flatMap]
    constructor
    · rintro ⟨c, hc, hmem⟩
      split at hmem
      · simp [hb] at hmem
      · rw [List.mem_singleton] at hmem
        exact hmem ▸ hc
    · intro hmem
      exact ⟨b, hmem, by rw [if_neg hb]; exact List.mem_singleton_self b⟩
  unfold writeField
  split
  · simp [hb, hescape]
  · rfl

lemma mem_write {b : UInt8} (hb : ¬special b) {record : List Bytes} :
    b ∈ write record ↔ ∃ field ∈ record, b ∈ field := by
  simp only [special, Bool.or_eq_true, decide_eq_true_eq, not_or] at hb
  have hfields : b ∈ [comma].intercalate (record.map writeField) ↔ ∃ field ∈ record, b ∈ field := by
    induction record with
    | nil => simp [List.intercalate]
    | cons field record ih =>
      cases record with
      | nil => simp [List.intercalate, mem_writeField hb.1.2]
      | cons field' record =>
        have hsplit : [comma].intercalate ((field :: field' :: record).map writeField) =
            writeField field ++ comma :: [comma].intercalate ((field' :: record).map writeField) := by
          simp [List.intercalate]
        rw [hsplit, List.mem_append, List.mem_cons, ih, mem_writeField hb.1.2, List.exists_mem_cons_iff]
        simp [hb.2]
  rw [write, List.mem_append, List.mem_singleton, hfields]
  simp [hb.1.1.1]

/-- A byte that is no part of the format is in the text where it is in a field. -/
lemma mem_writeAll {b : UInt8} (hb : ¬special b) {records : List (List Bytes)} :
    b ∈ writeAll records ↔ ∃ record ∈ records, ∃ field ∈ record, b ∈ field := by
  simp only [writeAll, List.mem_flatMap, mem_write hb]

end Go.Csv

namespace Go

/-! ## Text -/

/-- An ASCII byte of an encoded character is the character. -/
lemma mem_utf8EncodeChar {b : UInt8} (hb : b.toNat < 0x80) {c : Char} :
    b ∈ String.utf8EncodeChar c ↔ c.val.toNat = b.toNat := by
  have hlarge : ∀ n, 0x80 ≤ n → n < 0x100 → b ≠ UInt8.ofNat n := by
    rintro n hmin hmax rfl
    rw [UInt8.toNat_ofNat'] at hb
    omega
  unfold String.utf8EncodeChar
  dsimp only
  split
  · rw [List.mem_singleton, ← UInt8.toNat_inj, UInt8.toNat_ofNat']
    omega
  · have hne : c.val.toNat ≠ b.toNat := by omega
    have hmax := c.val.toNat_lt
    refine iff_of_false ?_ hne
    split
    · simp only [List.mem_cons, List.not_mem_nil, or_false, not_or]
      exact ⟨hlarge _ (by omega) (by omega), hlarge _ (by omega) (by omega)⟩
    · split
      · simp only [List.mem_cons, List.not_mem_nil, or_false, not_or]
        exact ⟨hlarge _ (by omega) (by omega), hlarge _ (by omega) (by omega), hlarge _ (by omega) (by omega)⟩
      · simp only [List.mem_cons, List.not_mem_nil, or_false, not_or]
        exact ⟨hlarge _ (by omega) (by omega), hlarge _ (by omega) (by omega), hlarge _ (by omega) (by omega),
          hlarge _ (by omega) (by omega)⟩

lemma mem_bytes {c : Char} (hc : c.val.toNat < 0x80) {s : String} :
    UInt8.ofNat c.val.toNat ∈ bytes s ↔ c ∈ s.toList := by
  have hval : (UInt8.ofNat c.val.toNat).toNat = c.val.toNat := by
    rw [UInt8.toNat_ofNat']
    omega
  have hmem : ∀ d, UInt8.ofNat c.val.toNat ∈ String.utf8EncodeChar d ↔ d = c := by
    intro d
    rw [mem_utf8EncodeChar (by omega), hval, UInt32.toNat_inj]
    exact ⟨fun h => Char.ext h, fun h => congrArg Char.val h⟩
  rw [bytes, encodeRunes, List.mem_flatMap]
  simp only [hmem, exists_eq_right]

end Go
