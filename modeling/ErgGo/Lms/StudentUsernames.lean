import ErgGo.Lib.Joined
import ErgGo.Lms.AccountRuns

/-!
# Usernames from names

The username of a new student is made from the name and the class: letters and digits in words
divided by dots, with a number behind it where it is taken. The pattern of usernames knows fewer
letters than a name may have.
-/

namespace ErgGo.Lms
open Go Documents Concurrent Program

/-! ## The pattern -/

/-- A character of a word of a username. -/
def WordChar (c : Char) : Prop := usernameChar c = true

lemma utf8Size_of_wordChar {c : Char} (h : WordChar c) : c.utf8Size = 1 := by
  refine Char.utf8Size_eq_one_iff.mpr ?_
  obtain h | h := (Bool.or_eq_true _ _).mp h
  · exact UInt32.le_trans (of_decide_eq_true ((Bool.and_eq_true _ _).mp h).2) (by decide)
  · exact UInt32.le_trans (of_decide_eq_true ((Bool.and_eq_true _ _).mp h).2) (by decide)

lemma not_wordChar {c : Char} (h : c ∈ ['.', '_', '-', runeError]) : ¬WordChar c := by
  have hall : ∀ c ∈ ['.', '_', '-', runeError], usernameChar c = false := by decide
  exact fun hword => Bool.false_ne_true ((hall c h).symm.trans hword)

lemma validateStudentUsername_iff {username : String} : validateStudentUsername username = .ok () ↔
    studentUsernamePattern username ∧ ¬contains username ".." ∧ ¬contains username "__" ∧ ¬contains username "--" := by
  unfold validateStudentUsername
  cases hpattern : studentUsernamePattern username with
  | false => simp [rejectIf, Bind.bind, Except.bind]
  | true =>
    change rejectIf _ _ = _ ↔ _
    unfold rejectIf
    split
    · rename_i hreject
      simp only [Bool.or_eq_true] at hreject
      simp only [reduceCtorEq, true_and, false_iff, not_and]
      intro hdots hunderscores hhyphens
      exact hreject.elim (fun h => h.elim hdots hunderscores) hhyphens
    · rename_i hreject
      simp only [Bool.or_eq_true, not_or] at hreject
      simp [hreject]

/-- Words of a username with single dots are valid, but for two characters in all. -/
lemma validate_joined {l : List Char} (h : Joined WordChar '.' l) (htwo : l.length ≠ 2) (hmax : l.length ≤ 64) :
    validateStudentUsername (String.ofList l) = .ok () := by
  have hnot : ∀ c ∈ ['_', '-'], ¬[c, c] <:+: l := by
    intro c hc hinner
    have hmem := hinner.subset (List.mem_cons_self (a := c))
    obtain hword | rfl := h.mem hmem
    · exact not_wordChar (List.mem_cons_of_mem _ (List.mem_append_left [runeError] hc)) hword
    · exact absurd hc (by decide)
  have hdots := h.not_twice (not_wordChar (by decide))
  refine validateStudentUsername_iff.mpr ⟨?_, ?_, ?_, ?_⟩
  · obtain ⟨first, rest, hl, hfirst⟩ := h.head
    obtain ⟨init, final, hinit, hfinal⟩ := h.last
    unfold studentUsernamePattern
    rw [String.toList_ofList, hl]
    simp only [Bool.and_eq_true, Bool.or_eq_true, decide_eq_true_eq, List.isEmpty_iff]
    refine ⟨hfirst, ?_⟩
    by_cases hrest : rest = []
    · exact .inl hrest
    have hpos := List.length_pos_iff.mpr hrest
    rw [hl, List.length_cons] at htwo hmax
    refine .inr ⟨⟨⟨by omega, by omega⟩, ?_⟩, ?_⟩
    · rw [List.all_eq_true]
      intro c hc
      have hmem : c ∈ l := hl ▸ List.mem_cons_of_mem first (List.dropLast_subset rest hc)
      obtain hword | rfl := h.mem hmem
      · rw [show usernameChar c = true from hword, Bool.true_or]
      · decide
    · have hlast : rest.getLast? = some final := by
        rw [← List.getLast?_cons_of_ne_nil hrest (x := first), ← hl, hinit, List.getLast?_concat]
      rw [hlast]
      exact hfinal
  · simpa [contains] using hdots
  · simpa [contains] using hnot '_' (by decide)
  · simpa [contains] using hnot '-' (by decide)

lemma chars_of_validate {username : String} (h : validateStudentUsername username = .ok ()) :
    (∀ c ∈ username.toList, WordChar c ∨ c ∈ ['.', '_', '-']) ∧ username.toList.length ≠ 2 := by
  have hpattern := (validateStudentUsername_iff.mp h).1
  unfold studentUsernamePattern at hpattern
  generalize username.toList = l at hpattern ⊢
  cases l with
  | nil => cases hpattern
  | cons c rest =>
    simp only [Bool.and_eq_true, Bool.or_eq_true, decide_eq_true_eq, List.isEmpty_iff] at hpattern
    obtain ⟨hfirst, rfl | ⟨⟨⟨hmin, hmax⟩, hmiddle⟩, hlast⟩⟩ := hpattern
    · refine ⟨fun d hd => .inl ?_, by simp⟩
      rw [List.mem_singleton.mp hd]
      exact hfirst
    · refine ⟨fun d hd => ?_, by rw [List.length_cons]; omega⟩
      have hrest : rest ≠ [] := List.ne_nil_of_length_pos (by omega)
      rw [List.getLast?_eq_some_getLast hrest] at hlast
      obtain rfl | hd := List.mem_cons.mp hd
      · exact .inl hfirst
      · rw [← List.dropLast_append_getLast hrest] at hd
        obtain hd | hd := List.mem_append.mp hd
        · have hkept := List.all_eq_true.mp hmiddle d hd
          rw [Bool.or_eq_true, decide_eq_true_eq] at hkept
          exact hkept
        · exact .inl (List.mem_singleton.mp hd ▸ hlast)

/-! ## The normal form -/

section Names

variable [Go.Unicode]

/-- What a username keeps of a name. -/
def NameChar (c : Char) : Prop := (Unicode.isLetter c || Unicode.isDigit c) = true

/-- The punctuation of usernames is neither a letter nor a digit. -/
def PunctuationSeparates : Prop := ∀ c ∈ ['.', '_', '-'], ¬NameChar c

/-- Words, perhaps with a dot behind them, or nothing. -/
def Words (l : List Char) : Prop :=
  l = [] ∨ ∃ name tail, Joined NameChar '.' name ∧ (∀ c ∈ tail, c ∈ ['.']) ∧ l = name ++ tail

/-- Behind a character of a word there may be a dot, behind a dot there is none. -/
lemma words_dotted (l : List Char) :
    Words (dotted true l) ∧ (Words (dotted false l) ∨ ∃ rest, Words rest ∧ dotted false l = '.' :: rest) := by
  induction l with
  | nil => exact ⟨.inl rfl, .inl (.inl rfl)⟩
  | cons r l ih =>
    obtain ⟨hbehind, hstart⟩ := ih
    by_cases hr : NameChar (foldVietnamese r)
    · have hword : Words (foldVietnamese r :: dotted false l) := by
        obtain (hnil | ⟨name, tail, hname, htail, hl⟩) | ⟨rest, hnil | ⟨name, tail, hname, htail, rfl⟩, hl⟩ := hstart
        · rw [hnil]
          exact .inr ⟨[_], [], .single hr, by simp, rfl⟩
        · rw [hl]
          exact .inr ⟨_ :: name, tail, .cons hr hname, htail, rfl⟩
        · rw [hl, hnil]
          exact .inr ⟨[_], ['.'], .single hr, fun _ h => h, rfl⟩
        · rw [hl]
          exact .inr ⟨_ :: '.' :: name, tail, .next hr hname, htail, rfl⟩
      have hdotted : ∀ lastDot, dotted lastDot (r :: l) = foldVietnamese r :: dotted false l :=
        fun lastDot => if_pos hr
      rw [hdotted, hdotted]
      exact ⟨hword, .inl hword⟩
    · have htrue : dotted true (r :: l) = dotted true l := (if_neg hr).trans (if_pos rfl)
      have hfalse : dotted false (r :: l) = '.' :: dotted true l := (if_neg hr).trans (if_neg Bool.false_ne_true)
      rw [htrue, hfalse]
      exact ⟨hbehind, .inr ⟨_, hbehind, rfl⟩⟩

variable [Library]

/-- The normal form is made of words, or there is none. -/
lemma normalizeUsername_joined (hseparates : PunctuationSeparates) (value : String) :
    (normalizeUsername value).toList = [] ∨ Joined NameChar '.' (normalizeUsername value).toList := by
  have hcutset : ∀ c, NameChar c → c ∉ ['.'] := by
    intro c hc hdot
    rw [List.mem_singleton] at hdot
    exact hseparates '.' (by decide) (hdot ▸ hc)
  unfold normalizeUsername
  rw [String.toList_ofList]
  obtain (hnil | ⟨name, tail, hname, htail, hl⟩) | ⟨rest, hnil | ⟨name, tail, hname, htail, rfl⟩, hl⟩ :=
    (words_dotted (toLower (trimSpace value)).toList).2
  · rw [hnil]
    exact .inl rfl
  · rw [hl]
    have htrim := hname.trim hcutset [] tail (by simp) htail
    exact .inr (htrim.symm ▸ hname)
  · rw [hl, hnil]
    exact .inl rfl
  · rw [hl]
    have htrim := hname.trim hcutset ['.'] tail (fun _ h => h) htail
    exact .inr (htrim.symm ▸ hname)

/-! ## The first username that is tried -/

/-- The normal form of the name and the class, as far as a username takes it, has only letters and
digits of usernames, and not two characters in all. -/
def UsernameWritable (fullName className : String) : Prop :=
  (∀ c ∈ takeBytes 56 (normalizeUsername (fullName ++ "." ++ className)).toList, WordChar c ∨ c = '.') ∧
    (normalizeUsername (fullName ++ "." ++ className)).toList.length ≠ 2

lemma usernameBase_eq (fullName className : String) : (usernameBase fullName className).toList =
    if normalizeUsername (fullName ++ "." ++ className) = "" then "student".toList
    else if (normalizeUsername (fullName ++ "." ++ className)).utf8ByteSize > 56 then
      trim (takeBytes 56 (normalizeUsername (fullName ++ "." ++ className)).toList) ['.', '_', '-']
    else (normalizeUsername (fullName ++ "." ++ className)).toList := by
  unfold usernameBase
  dsimp only
  by_cases hempty : normalizeUsername (fullName ++ "." ++ className) = ""
  · rw [if_pos hempty, if_pos hempty, if_neg (by decide)]
  · rw [if_neg hempty, if_neg hempty]
    split
    · rw [String.toList_ofList]
    · rfl

omit [Library] in
/-- What is cut off a long normal form, and what is left of it. -/
lemma trim_takeBytes {l : List Char} (hl : Joined NameChar '.' l) (hseparates : PunctuationSeparates)
    (hlong : 56 < (l.map Char.utf8Size).sum) (hwords : ∀ c ∈ takeBytes 56 l, WordChar c ∨ c = '.') :
    Joined WordChar '.' (trim (takeBytes 56 l) ['.', '_', '-']) ∧
      55 ≤ (trim (takeBytes 56 l) ['.', '_', '-']).length ∧ (trim (takeBytes 56 l) ['.', '_', '-']).length ≤ 56 := by
  have hcutset : ∀ c, NameChar c → c ∉ ['.', '_', '-'] := fun c hc hmem => hseparates c hmem hc
  have hdot : ∀ c ∈ ['.'], c ∈ ['.', '_', '-'] := by decide
  have huncut : runeError ∉ takeBytes 56 l := by
    intro hmem
    obtain hword | hdot := hwords _ hmem
    · exact not_wordChar (by decide) hword
    · exact absurd hdot (by decide)
  have hlength : (takeBytes 56 l).length = 56 := by
    have hsizes : (takeBytes 56 l).map Char.utf8Size = List.replicate (takeBytes 56 l).length 1 := by
      refine List.eq_replicate_iff.mpr ⟨by rw [List.length_map], fun n hn => ?_⟩
      obtain ⟨c, hc, rfl⟩ := List.mem_map.mp hn
      obtain hword | rfl := hwords c hc
      · exact utf8Size_of_wordChar hword
      · rfl
    have hsum := sum_takeBytes huncut hlong.le
    rw [hsizes, List.sum_replicate_nat, Nat.mul_one] at hsum
    exact hsum
  have hword : ∀ {m}, Joined NameChar '.' m → (∀ c ∈ m, c ∈ takeBytes 56 l) → Joined WordChar '.' m := by
    intro m hm hsub
    refine hm.imp fun c hc hname => (hwords c (hsub c hc)).resolve_right ?_
    rintro rfl
    exact hseparates '.' (by decide) hname
  have hne : takeBytes 56 l ≠ [] := List.ne_nil_of_length_pos (by omega)
  obtain hwhole | ⟨init, hinit, hcut⟩ := hl.of_prefix (takeBytes_prefix_of_whole huncut) hne
  · have htrim := hwhole.trim hcutset [] [] (by simp) (by simp)
    rw [List.append_nil, List.nil_append] at htrim
    rw [htrim, hlength]
    exact ⟨hword hwhole fun c hc => hc, by omega, by omega⟩
  · have htrim := hinit.trim hcutset [] ['.'] (by simp) hdot
    rw [List.nil_append, ← hcut] at htrim
    have hshorter := congrArg List.length hcut
    rw [hlength, List.length_append, List.length_singleton] at hshorter
    rw [htrim]
    refine ⟨hword hinit fun c hc => ?_, by omega, by omega⟩
    rw [hcut]
    exact List.mem_append_left _ hc

lemma base_joined (hseparates : PunctuationSeparates) {fullName className : String}
    (h : UsernameWritable fullName className) : Joined WordChar '.' (usernameBase fullName className).toList ∧
      (usernameBase fullName className).toList.length ≠ 2 ∧ (usernameBase fullName className).toList.length ≤ 56 := by
  obtain ⟨hwords, htwo⟩ := h
  have hnormal := normalizeUsername_joined hseparates (fullName ++ "." ++ className)
  rw [usernameBase_eq]
  generalize normalizeUsername (fullName ++ "." ++ className) = normal at hwords htwo hnormal ⊢
  split
  · refine ⟨Joined.of_forall (by decide) ?_, by decide, by decide⟩
    have hall : ∀ c ∈ "student".toList, usernameChar c = true := by decide
    exact hall
  rename_i hempty
  replace hnormal := hnormal.resolve_left fun hnil => hempty (String.toList_eq_nil_iff.mp hnil)
  have hbytes := utf8ByteSize_ofList normal.toList
  rw [String.ofList_toList] at hbytes
  rw [hbytes]
  split
  · rename_i hlong
    obtain ⟨hjoined, hmin, hmax⟩ := trim_takeBytes hnormal hseparates hlong hwords
    exact ⟨hjoined, by omega, hmax⟩
  · rename_i hshort
    rw [takeBytes_eq_self (Nat.le_of_not_lt hshort)] at hwords
    refine ⟨hnormal.imp fun c hc hname => (hwords c hc).resolve_right ?_, htwo, ?_⟩
    · rintro rfl
      exact hseparates '.' (by decide) hname
    · exact (length_le_sizes normal.toList).trans (Nat.le_of_not_lt hshort)

omit [Go.Unicode] [Library] in
lemma mem_trim {l cutset : List Char} {c : Char} (hc : c ∈ l) (hcutset : c ∉ cutset) : c ∈ trim l cutset := by
  have hkept : ∀ {m : List Char}, c ∈ m → c ∈ m.dropWhile (· ∈ cutset) := by
    intro m hm
    rw [← List.takeWhile_append_dropWhile (p := (· ∈ cutset)) (l := m)] at hm
    refine (List.mem_append.mp hm).resolve_left fun hdropped => hcutset ?_
    exact of_decide_eq_true (List.mem_takeWhile_imp (p := fun c => decide (c ∈ cutset)) hdropped)
  exact List.mem_reverse.mpr (hkept (List.mem_reverse.mpr (hkept hc)))

/-- A name whose first username is valid can be written. -/
lemma writable_of_validate (hseparates : PunctuationSeparates) {fullName className : String}
    (h : validateStudentUsername (usernameBase fullName className) = .ok ()) : UsernameWritable fullName className := by
  obtain ⟨hchars, htwo⟩ := chars_of_validate h
  have hnormal := normalizeUsername_joined hseparates (fullName ++ "." ++ className)
  unfold UsernameWritable
  rw [usernameBase_eq] at hchars htwo
  generalize normalizeUsername (fullName ++ "." ++ className) = normal at hchars htwo hnormal ⊢
  obtain hnil | hnormal := hnormal
  · rw [hnil, takeBytes]
    exact ⟨fun _ hc => absurd hc List.not_mem_nil, by decide⟩
  have hempty : normal ≠ "" := by
    rintro rfl
    obtain ⟨_, _, hcons, _⟩ := hnormal.head
    cases hcons
  -- the other punctuation is no part of a normal form
  have hdot : ∀ c ∈ takeBytes 56 normal.toList, WordChar c ∨ c ∈ ['.', '_', '-'] → WordChar c ∨ c = '.' := by
    intro c hc hchar
    refine hchar.imp_right fun hmem => ?_
    obtain hnormalChar | rfl := mem_takeBytes hc
    · exact (hnormal.mem hnormalChar).resolve_left (hseparates c hmem)
    · exact absurd hmem (by decide)
  have hbytes := utf8ByteSize_ofList normal.toList
  rw [String.ofList_toList] at hbytes
  rw [if_neg hempty, hbytes] at hchars htwo
  split at hchars
  · rename_i hlong
    refine ⟨fun c hc => hdot c hc ?_, fun hlength => ?_⟩
    · by_cases hmem : c ∈ ['.', '_', '-']
      · exact .inr hmem
      · exact hchars c (mem_trim hc hmem)
    · obtain ⟨c, d, hcd⟩ := List.length_eq_two.mp hlength
      rw [hcd] at hlong
      have hc := c.utf8Size_le_four
      have hd := d.utf8Size_le_four
      simp only [List.map_cons, List.map_nil, List.sum_cons, List.sum_nil] at hlong
      omega
  · rename_i hshort
    rw [if_neg hshort] at htwo
    rw [takeBytes_eq_self (Nat.le_of_not_lt hshort)] at hdot ⊢
    exact ⟨fun c hc => hdot c hc (hchars c hc), htwo⟩

omit [Library] in
lemma mem_dotted {l : List Char} {lastDot : Bool} {c : Char} (hc : c ∈ dotted lastDot l) :
    c = '.' ∨ ∃ r ∈ l, foldVietnamese r = c ∧ NameChar c := by
  induction l generalizing lastDot with
  | nil => cases hc
  | cons r l ih =>
    have hrest : ∀ {lastDot}, c ∈ dotted lastDot l → c = '.' ∨ ∃ r' ∈ r :: l, foldVietnamese r' = c ∧ NameChar c := by
      intro lastDot hc
      obtain hdot | ⟨r', hr', hfold⟩ := ih hc
      · exact .inl hdot
      · exact .inr ⟨r', List.mem_cons_of_mem _ hr', hfold⟩
    rw [dotted] at hc
    split at hc
    · rename_i hname
      obtain rfl | hc := List.mem_cons.mp hc
      · exact .inr ⟨r, List.mem_cons_self, rfl, hname⟩
      · exact hrest hc
    · split at hc
      · exact hrest hc
      · obtain rfl | hc := List.mem_cons.mp hc
        · exact .inl rfl
        · exact hrest hc

/-- A name can be written whose letters and digits in lower case are those of usernames, or folded
to one. -/
theorem writable_of_folds {fullName className : String}
    (hfolds : ∀ r ∈ (toLower (trimSpace (fullName ++ "." ++ className))).toList,
      NameChar (foldVietnamese r) → WordChar (foldVietnamese r))
    (htwo : (normalizeUsername (fullName ++ "." ++ className)).toList.length ≠ 2) :
    UsernameWritable fullName className := by
  have hchars : ∀ c ∈ (normalizeUsername (fullName ++ "." ++ className)).toList, WordChar c ∨ c = '.' := by
    intro c hc
    rw [normalizeUsername, String.toList_ofList] at hc
    obtain hdot | ⟨r, hr, rfl, hname⟩ := mem_dotted (trim_subset hc)
    · exact .inr hdot
    · exact .inl (hfolds r hr hname)
  refine ⟨fun c hc => ?_, htwo⟩
  refine hchars c (mem_takeBytes_of_sizes (fun c hc => ?_) hc)
  obtain hword | rfl := hchars c hc
  · exact utf8Size_of_wordChar hword
  · rfl

end Names

/-! ## The usernames that are tried -/

section Tries

variable [Library] [AccountLibrary] {b : Backend}

/-- The usernames behind one that is taken. -/
def numbered (base : String) (i left : ℕ) : List String := (List.range' i left).map fun i => base ++ "." ++ toString i

omit [Library] [AccountLibrary] in
lemma validate_numbered {base : String} (h : Joined WordChar '.' base.toList) (hmax : base.toList.length ≤ 56) {i : ℕ}
    (hi : i < 1000) : validateStudentUsername (base ++ "." ++ toString i) = .ok () := by
  have hdigits : ∀ c ∈ Nat.toDigits 10 i, WordChar c := by
    intro c hc
    have hdigit := Nat.isDigit_of_mem_toDigits (by decide) (by decide) hc
    rw [WordChar, usernameChar, hdigit, Bool.or_true]
  have hshort : (Nat.toDigits 10 i).length ≤ 3 := (Nat.length_toDigits_le_iff (by decide) (by decide)).mpr hi
  have hne : Nat.toDigits 10 i ≠ [] := Nat.toDigits_ne_nil
  have hpos := List.length_pos_iff.mpr hne
  obtain ⟨first, rest, hfirst, -⟩ := h.head
  have hbase : 0 < base.toList.length := by
    rw [hfirst]
    exact Nat.succ_pos _
  have htext : base ++ "." ++ toString i = String.ofList (base.toList ++ '.' :: Nat.toDigits 10 i) := by
    apply String.toList_injective
    simp
  rw [htext]
  refine validate_joined (h.append (.of_forall hne hdigits)) ?_ ?_
  all_goals
    rw [List.length_append, List.length_cons]
    omega

lemma exec_usernameExists {env : AccountEnv} {tenantID username : String} {s : AccountStore} :
    AccountStore.exec b env (.usernameExists tenantID username) s =
      (.ok (s.students.any fun student => student.tenantID = tenantID && student.username = username), s) := rfl

omit [Library] [AccountLibrary] in
lemma usernameFree_iff {tenantID username : String} {s : AccountStore} : s.UsernameFree tenantID username ↔
    (s.students.any fun student => student.tenantID = tenantID && student.username = username) = false := by
  simp [AccountStore.UsernameFree, List.any_eq_false]

/-- A username that is free and valid. -/
def Finds (tenantID : String) (s : AccountStore) (r : Except LmsError (String × Bool)) (s' : AccountStore) : Prop :=
  s' = s ∧ ∃ username duplicate, r = .ok (username, duplicate) ∧ s.UsernameFree tenantID username ∧
    validateStudentUsername username = .ok ()

/-- The loop finds one if all that it tries are valid and one of them is free. -/
lemma tryUsernames_finds {tenantID base : String} {s : AccountStore} (left : ℕ) {i : ℕ} {username : String}
    {duplicate : Bool}
    (hvalid : ∀ tried ∈ username :: numbered base (i + 1) left, validateStudentUsername tried = .ok ())
    (hfree : ∃ tried ∈ username :: numbered base (i + 1) left, s.UsernameFree tenantID tried) :
    Ensures (AccountStore.exec b) (Finds tenantID s)
      (Service.tryUsernames tenantID base (left + 1) i username duplicate).run s := by
  induction left generalizing i username duplicate with
  | zero =>
    obtain ⟨tried, htried, hfree⟩ := hfree
    rw [numbered, List.range'_zero, List.map_nil, List.mem_singleton] at htried
    subst htried
    have hvalid := hvalid tried List.mem_cons_self
    apply Ensures.lift_bind
    · exact fun e he => nomatch hvalid.symm.trans he
    intro _ _ env
    rw [exec_usernameExists, usernameFree_iff.mp hfree]
    exact ⟨rfl, tried, duplicate, rfl, hfree, hvalid⟩
  | succ left ih =>
    have hfirst := hvalid username List.mem_cons_self
    have hnumbered : numbered base (i + 1) (left + 1) =
        (base ++ "." ++ toString (i + 1)) :: numbered base (i + 1 + 1) left := by
      rw [numbered, List.range'_succ, List.map_cons]
      rfl
    rw [hnumbered] at hvalid hfree
    apply Ensures.lift_bind
    · exact fun e he => nomatch hfirst.symm.trans he
    intro _ _ env
    rw [exec_usernameExists]
    cases htaken : s.students.any fun student => student.tenantID = tenantID && student.username = username with
    | false => exact ⟨rfl, username, duplicate, rfl, usernameFree_iff.mpr htaken, hfirst⟩
    | true =>
      refine ih (fun tried htried => hvalid tried (List.mem_cons_of_mem _ htried)) ?_
      obtain ⟨tried, htried, hfree⟩ := hfree
      obtain rfl | htried := List.mem_cons.mp htried
      · exact nomatch htaken.symm.trans (usernameFree_iff.mp hfree)
      · exact ⟨tried, htried, hfree⟩

attribute [local irreducible] usernameBase Service.tryUsernames

/-- The usernames that are tried for a name. -/
def usernameCandidates [Go.Unicode] (fullName className : String) : List String :=
  usernameBase fullName className :: numbered (usernameBase fullName className) 1 99

variable [Go.Unicode] {tenantID fullName className : String} {s : AccountStore}

omit [AccountLibrary] in
lemma validate_candidate (hseparates : PunctuationSeparates) (h : UsernameWritable fullName className)
    {candidate : String} (hcandidate : candidate ∈ usernameCandidates fullName className) :
    validateStudentUsername candidate = .ok () := by
  obtain ⟨hjoined, htwo, hmax⟩ := base_joined hseparates h
  rw [usernameCandidates, List.mem_cons] at hcandidate
  obtain rfl | hnumbered := hcandidate
  · have hvalid := validate_joined hjoined htwo (by omega)
    rwa [String.ofList_toList] at hvalid
  · obtain ⟨i, hi, rfl⟩ := List.mem_map.mp hnumbered
    have hlast := (List.mem_range'_1.mp hi).2
    exact validate_numbered hjoined hmax (by omega)

omit [AccountLibrary] in
lemma uniqueStudentUsername_refuses (tenantID : String)
    (h : ¬validateStudentUsername (usernameBase fullName className) = .ok ()) :
    ∃ e, (Service.uniqueStudentUsername tenantID fullName className).run = .done (.error e) := by
  cases hinvalid : validateStudentUsername (usernameBase fullName className) with
  | ok _ => exact absurd hinvalid h
  | error e =>
    refine ⟨e, ?_⟩
    unfold Service.uniqueStudentUsername Service.tryUsernames
    rw [hinvalid]
    rfl

/-- Exactly the names that can be written get one of their usernames, wherever one of these is free. -/
theorem uniqueStudentUsername_finds_iff (hseparates : PunctuationSeparates)
    (hfree : ∃ candidate ∈ usernameCandidates fullName className, s.UsernameFree tenantID candidate) :
    Ensures (AccountStore.exec b) (Finds tenantID s)
      (Service.uniqueStudentUsername tenantID fullName className).run s ↔ UsernameWritable fullName className := by
  constructor
  · intro hfinds
    by_contra hwritable
    obtain ⟨e, hrefuses⟩ := uniqueStudentUsername_refuses tenantID
      (mt (writable_of_validate hseparates) hwritable)
    rw [hrefuses] at hfinds
    obtain ⟨-, username, duplicate, hreturned, -⟩ := hfinds
    cases hreturned
  · intro hwritable
    have hvalid : ∀ candidate ∈ usernameCandidates fullName className,
        validateStudentUsername candidate = .ok () := fun _ => validate_candidate hseparates hwritable
    rw [usernameCandidates] at hvalid hfree
    unfold Service.uniqueStudentUsername
    exact tryUsernames_finds 99 hvalid hfree

end Tries

section Sample

attribute [local instance] asciiLibrary Sample.accountLibrary asciiUnicode

lemma usernameFree_enrolment (username : String) : Sample.enrolment.UsernameFree "t" username := by
  have hnone : Sample.enrolment.students = [] := rfl
  intro student hstudent
  rw [hnone] at hstudent
  exact absurd hstudent List.not_mem_nil

lemma separates_of_ascii : PunctuationSeparates := by
  intro c hc
  have hall : ∀ c ∈ ['.', '_', '-'], (c.isAlpha || c.isDigit) = false := by decide
  exact fun hname => Bool.false_ne_true ((hall c hc).symm.trans hname)

theorem an_ngo_finds : Ensures (AccountStore.exec .mongo) (Finds "t" Sample.enrolment)
    (Service.uniqueStudentUsername "t" "An Ngo" "5A").run Sample.enrolment := by
  have hfirst : usernameBase "An Ngo" "5A" ∈ usernameCandidates "An Ngo" "5A" := by
    rw [usernameCandidates]
    exact List.mem_cons_self
  have hnormal : normalizeUsername ("An Ngo" ++ "." ++ "5A") = "an.ngo.5a" := by decide
  have hchars : ∀ c ∈ takeBytes 56 "an.ngo.5a".toList, usernameChar c = true ∨ c = '.' := by decide
  have hwritable : UsernameWritable "An Ngo" "5A" := by
    unfold UsernameWritable
    rw [hnormal]
    exact ⟨hchars, by decide⟩
  exact (uniqueStudentUsername_finds_iff separates_of_ascii ⟨_, hfirst, usernameFree_enrolment _⟩).mpr hwritable

end Sample

section Sample

attribute [local instance] asciiLibrary Sample.accountLibrary

/-- The ASCII letters and one more. -/
@[reducible] def spanishUnicode : Go.Unicode := ⟨fun c => c.isAlpha || c = 'ñ', Char.isDigit⟩

attribute [local instance] spanishUnicode

/-- All that is in the name are letters and every username is free, but none is given. -/
theorem munoz_refused : (∀ c ∈ "Muñoz".toList, Unicode.isLetter c) ∧
    (∀ candidate, Sample.enrolment.UsernameFree "t" candidate) ∧
    (Service.uniqueStudentUsername "t" "Muñoz" "5A").run = .done (.error .invalidStudentAccountPayload) := by
  refine ⟨by decide, usernameFree_enrolment, ?_⟩
  have hrefused : validateStudentUsername (usernameBase "Muñoz" "5A") = .error .invalidStudentAccountPayload := by
    decide
  unfold Service.uniqueStudentUsername Service.tryUsernames
  rw [hrefused]
  rfl

end Sample

end ErgGo.Lms
