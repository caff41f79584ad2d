import Mathlib.Algebra.Order.Ring.Int
import Mathlib.Tactic.LinearCombination
import Mathlib.Tactic.Linarith
import Mathlib.Tactic.Ring

/-!
# The hash of Fowler, Noll and Vo

FNV-1a takes a byte into a word by an exclusive or, which moves the word by less than a byte, and a
multiplication. A step can be undone, and two texts of six bytes never meet: what they move the
word by would be a short combination of powers of the prime, and there is none.
-/

namespace Fnv

def prime : ℤ := 1099511628211

/-- A combination of the first six powers with small coefficients that is a whole number of turns has
no coefficients: each of six combinations of the coefficients is a whole number of turns and less
than one, and no others but zero make all six vanish. -/
lemma eq_zero_of_short {a b c d e f : ℤ}
    (hdvd : (2 : ℤ) ^ 64 ∣ prime ^ 6 * a + prime ^ 5 * b + prime ^ 4 * c + prime ^ 3 * d + prime ^ 2 * e +
      prime * f)
    (ha : |a| ≤ 510) (hb : |b| ≤ 510) (hc : |c| ≤ 510) (hd : |d| ≤ 510) (he : |e| ≤ 510) (hf : |f| ≤ 510) :
    a = 0 ∧ b = 0 ∧ c = 0 ∧ d = 0 ∧ e = 0 ∧ f = 0 := by
  rw [abs_le] at ha hb hc hd he hf
  -- the powers within one turn
  obtain ⟨k, hk⟩ : (2 : ℤ) ^ 64 ∣
      -2551741968955619783 * a + 913917546033277539 * b - 6919028725695267695 * c +
      624165263380053675 * d + 956575116354345 * e + 1099511628211 * f := by
    obtain ⟨k, hk⟩ := hdvd
    unfold prime at hk
    refine ⟨k - (95780971531481120154170168839633095546949731601350384 * a +
      87112286104081500251499816140704456780207 * b + 79228162639644551293944856596 * c + 72057594123452416 * d +
        65536 * e), ?_⟩
    linear_combination hk
  have h0 : -10117495039556816 * a + 644476066068496 * b + 7704392091402160 * c -
      4253954618046064 * d - 3431600937981904 * e + 2518874921680656 * f = 0 := by
    refine Int.eq_zero_of_abs_lt_dvd (m := 2 ^ 64) ⟨4102797547569945776 * k -
      (-567540843545573162 * a + 203267235213094373 * b - 1538882632833100655 * c +
      138822531588311029 * d + 212754837697264 * e + 244545790505 * f), ?_⟩ (abs_lt.mpr ⟨by linarith, by linarith⟩)
    linear_combination 4102797547569945776 * hk
  have h1 : 10753435092956894 * a + 1503490379027114 * b + 2833942984976814 * c -
      84464088609638 * d - 3509890893664258 * e - 8107455562062582 * f = 0 := by
    refine Int.eq_zero_of_abs_lt_dvd (m := 2 ^ 64) ⟨4562491563806612942 * k -
      (-631130413033918155 * a + 226042117629550639 * b - 1711305261491173444 * c +
      154376768995850168 * d + 236592749434528 * e + 271945689059 * f), ?_⟩ (abs_lt.mpr ⟨by linarith, by linarith⟩)
    linear_combination 4562491563806612942 * hk
  have h2 : -964417354571113 * a + 6415703093100941 * b - 1237812376006721 * c +
      6915764390345669 * d - 1040540266766169 * e + 8671412534092605 * f = 0 := by
    refine Int.eq_zero_of_abs_lt_dvd (m := 2 ^ 64) ⟨7698100873003003727 * k -
      (-1064879905115170458 * a + 381391395189272857 * b - 2887413673696433009 * c +
      260473454812662841 * d + 399193034221974 * e + 458842568162 * f), ?_⟩ (abs_lt.mpr ⟨by linarith, by linarith⟩)
    linear_combination 7698100873003003727 * hk
  have h3 : -6302646686563376 * a + 1535281643037936 * b - 5452110822838448 * c +
      559839306353520 * d - 5164142811992368 * e - 4410605614494224 * f = 0 := by
    refine Int.eq_zero_of_abs_lt_dvd (m := 2 ^ 64) ⟨4580056007442358864 * k -
      (-633560106198608721 * a + 226912322862565110 * b - 1717893355822670427 * c +
      154971080682737730 * d + 237503571943228 * e + 272992611483 * f), ?_⟩ (abs_lt.mpr ⟨by linarith, by linarith⟩)
    linear_combination 4580056007442358864 * hk
  have h4 : 1150927258463695 * a - 6373219910648459 * b + 2407835907481655 * c +
      7420022407511405 * d + 521531150890079 * e - 2434785518635867 * f = 0 := by
    refine Int.eq_zero_of_abs_lt_dvd (m := 2 ^ 64) ⟨-3043126869017570233 * k -
      (420956376773057584 * a - 150767367362363458 * b + 1141419978427310205 * c -
      102967443799815605 * d - 157804511581004 * e - 181384496106 * f), ?_⟩ (abs_lt.mpr ⟨by linarith, by linarith⟩)
    linear_combination -3043126869017570233 * hk
  have h5 : -4482579670404340 * a + 5247281785750212 * b + 1973864442898476 * c +
      1178876700584228 * d + 4977183758088268 * e - 5046382459189116 * f = 0 := by
    refine Int.eq_zero_of_abs_lt_dvd (m := 2 ^ 64) ⟨5853314620625283948 * k -
      (-809690236676411534 * a + 289994099385085485 * b - 2195468850156505296 * c +
      198053144079545467 * d + 303529722747287 * e + 348884738859 * f), ?_⟩ (abs_lt.mpr ⟨by linarith, by linarith⟩)
    linear_combination 5853314620625283948 * hk
  refine ⟨?_, ?_, ?_, ?_, ?_, ?_⟩ <;> linarith only [h0, h1, h2, h3, h4, h5]

def step (h : UInt64) (c : UInt8) : UInt64 := (h ^^^ c.toUInt64) * 1099511628211

def write (h : UInt64) (data : List UInt8) : UInt64 := data.foldl step h

lemma write_append (h : UInt64) (data data' : List UInt8) : write h (data ++ data') = write (write h data) data' :=
  List.foldl_append

lemma step_injective (c : UInt8) : Function.Injective (step · c) := by
  intro h h' heq
  have hinv : ∀ x : UInt64, x * 1099511628211 * 14886173955864302971 = x := by
    intro x
    have hone : (1099511628211 : UInt64) * 14886173955864302971 = 1 := by decide
    rw [UInt64.mul_assoc, hone, UInt64.mul_one]
  have hxor : h ^^^ c.toUInt64 = h' ^^^ c.toUInt64 := by
    have := congrArg (· * (14886173955864302971 : UInt64)) heq
    simpa [step, hinv] using this
  exact (UInt64.xor_left_inj _).mp hxor

lemma write_injective (data : List UInt8) : Function.Injective (write · data) := by
  induction data with
  | nil => exact fun _ _ h => h
  | cons c data ih => exact ih.comp (step_injective c)

/-! ## What a byte moves the word by -/

def drift (h : UInt64) (c : UInt8) : ℤ := (h ^^^ c.toUInt64).toNat - h.toNat

lemma abs_drift_le (h : UInt64) (c : UInt8) : |drift h c| ≤ 255 := by
  have hdiv : (h ^^^ c.toUInt64).toNat / 2 ^ 8 = h.toNat / 2 ^ 8 := by
    have hc : c.toNat / 2 ^ 8 = 0 := Nat.div_eq_of_lt c.toNat_lt
    rw [UInt64.toNat_xor, UInt8.toNat_toUInt64, Nat.xor_div_two_pow, hc, Nat.xor_zero]
  unfold drift
  rw [abs_le]
  omega

lemma drift_injective (h : UInt64) : Function.Injective (drift h) := by
  intro c c' heq
  unfold drift at heq
  have hxor : h ^^^ c.toUInt64 = h ^^^ c'.toUInt64 := UInt64.toNat_inj.mp (by omega)
  have hword := (UInt64.xor_right_inj _).mp hxor
  rw [← UInt8.toNat_inj, ← UInt8.toNat_toUInt64, ← UInt8.toNat_toUInt64, hword]

lemma toNat_step (h : UInt64) (c : UInt8) :
    ∃ k : ℤ, ((step h c).toNat : ℤ) = prime * (h.toNat + drift h c) + 2 ^ 64 * k := by
  have hmul : (step h c).toNat = (h ^^^ c.toUInt64).toNat * 1099511628211 % 2 ^ 64 := UInt64.toNat_mul _ _
  refine ⟨-((h ^^^ c.toUInt64).toNat * 1099511628211 / 2 ^ 64 : ℕ), ?_⟩
  unfold drift prime
  omega

def drifts (h : UInt64) : List UInt8 → List ℤ
  | [] => []
  | c :: data => drift h c :: drifts (step h c) data

@[simp] lemma length_drifts (h : UInt64) (data : List UInt8) : (drifts h data).length = data.length := by
  induction data generalizing h with
  | nil => rfl
  | cons c data ih => rw [drifts, List.length_cons, List.length_cons, ih]

lemma abs_le_of_mem_drifts {h : UInt64} {data : List UInt8} {d : ℤ} (hd : d ∈ drifts h data) : |d| ≤ 255 := by
  induction data generalizing h with
  | nil => cases hd
  | cons c data ih =>
    obtain rfl | hd := List.mem_cons.mp hd
    · exact abs_drift_le h c
    · exact ih hd

/-- The bytes can be told from what they move the word by. -/
lemma drifts_injective (h : UInt64) : Function.Injective (drifts h) := by
  intro data data' heq
  induction data generalizing h data' with
  | nil =>
    cases data' with
    | nil => rfl
    | cons c' data' => cases heq
  | cons c data ih =>
    cases data' with
    | nil => cases heq
    | cons c' data' =>
      obtain ⟨hfirst, hrest⟩ := List.cons_eq_cons.mp heq
      obtain rfl := drift_injective h hfirst
      rw [ih (step h c) hrest]

/-- The powers of the prime, highest first, combined. -/
def combination : List ℤ → ℤ
  | [] => 0
  | d :: ds => prime ^ (ds.length + 1) * d + combination ds

lemma toNat_write (h : UInt64) (data : List UInt8) :
    ∃ k : ℤ, ((write h data).toNat : ℤ) = prime ^ data.length * h.toNat + combination (drifts h data) + 2 ^ 64 * k := by
  induction data generalizing h with
  | nil => exact ⟨0, by simp [write, drifts, combination]⟩
  | cons c data ih =>
    obtain ⟨k, hk⟩ := ih (step h c)
    obtain ⟨k', hk'⟩ := toNat_step h c
    refine ⟨k + prime ^ data.length * k', ?_⟩
    change ((write (step h c) data).toNat : ℤ) = _
    rw [hk, hk', drifts, combination, length_drifts, List.length_cons]
    ring

/-- Six bytes can be told from the hash, whatever was hashed before them. -/
theorem write_six_injective {h : UInt64} {data data' : List UInt8} (hlen : data.length = 6) (hlen' : data'.length = 6)
    (heq : write h data = write h data') : data = data' := by
  obtain ⟨k, hk⟩ := toNat_write h data
  obtain ⟨k', hk'⟩ := toNat_write h data'
  have hbound : ∀ d ∈ drifts h data, |d| ≤ 255 := fun d => abs_le_of_mem_drifts
  have hbound' : ∀ d ∈ drifts h data', |d| ≤ 255 := fun d => abs_le_of_mem_drifts
  have hcombination : combination (drifts h data) - combination (drifts h data') = 2 ^ 64 * (k' - k) := by
    rw [heq, hlen] at hk
    rw [hlen'] at hk'
    linarith
  refine drifts_injective h ?_
  have hsix : (drifts h data).length = 6 := by rw [length_drifts, hlen]
  have hsix' : (drifts h data').length = 6 := by rw [length_drifts, hlen']
  generalize drifts h data = ds at hbound hcombination hsix ⊢
  generalize drifts h data' = ds' at hbound' hcombination hsix' ⊢
  match ds, ds', hsix, hsix' with
  | [a, b, c, d, e, f], [a', b', c', d', e', f'], _, _ =>
    have hdiff : ∀ {x y : ℤ}, |x| ≤ 255 → |y| ≤ 255 → |x - y| ≤ 510 := by
      intro x y hx hy
      rw [abs_le] at hx hy ⊢
      omega
    simp only [List.mem_cons, List.not_mem_nil, or_false, forall_eq_or_imp, forall_eq] at hbound hbound'
    obtain ⟨ha, hb, hc, hd, he, hf⟩ := hbound
    obtain ⟨ha', hb', hc', hd', he', hf'⟩ := hbound'
    have hzero := eq_zero_of_short (a := a - a') (b := b - b') (c := c - c') (d := d - d') (e := e - e') (f := f - f')
      ⟨k' - k, by rw [← hcombination]; simp only [combination, List.length_cons, List.length_nil]; ring⟩
      (hdiff ha ha') (hdiff hb hb') (hdiff hc hc') (hdiff hd hd') (hdiff he he') (hdiff hf hf')
    obtain ⟨h1, h2, h3, h4, h5, h6⟩ := hzero
    rw [sub_eq_zero.mp h1, sub_eq_zero.mp h2, sub_eq_zero.mp h3, sub_eq_zero.mp h4, sub_eq_zero.mp h5,
      sub_eq_zero.mp h6]

end Fnv
