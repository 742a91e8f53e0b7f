import LoxScan.Number.Decimal
import LoxScan.Proofs.Boundary

/-! Number literals as texts of numbers. A literal is a numeral: digits, perhaps with a point
between them. The reader of full numbers, which also knows blanks, signs, exponents and names, takes
a numeral for the same number as the reader of numerals does. -/

namespace LoxScan

open Text Segment

/-- The text of a number literal. -/
structure Numeral (cs : List Char) : Prop where
  ne_nil : cs ≠ []
  shape : (∀ x ∈ cs, isDigit x = true) ∨ ∃ run part, cs = run ++ '.' :: part ∧ run ≠ [] ∧
    (∀ x ∈ run, isDigit x = true) ∧ ∀ x ∈ part, isDigit x = true

namespace Numeral

theorem of_leads {s : Segment} {rest : List Char} (h : Leads s rest) (hf : s.form = .number) :
    Numeral s.text := by
  cases h with
  | whole digit inside => exact ⟨by simp [text], .inl (List.forall_mem_cons.mpr ⟨digit, inside⟩)⟩
  | @fraction c run d part _ digit inside digit' inside' =>
    exact ⟨by simp [text], .inr ⟨c :: run, d :: part, rfl, by simp,
      List.forall_mem_cons.mpr ⟨digit, inside⟩, List.forall_mem_cons.mpr ⟨digit', inside'⟩⟩⟩
  | _ => cases hf

variable {cs : List Char}

theorem mem (h : Numeral cs) {x : Char} (hx : x ∈ cs) : x ∈ '.' :: digits := by
  rcases h.shape with hd | ⟨run, part, rfl, -, hr, hp⟩
  · exact List.mem_cons_of_mem _ (mem_digits_of_isDigit (hd x hx))
  · rcases List.mem_append.mp hx with hx | hx
    · exact List.mem_cons_of_mem _ (mem_digits_of_isDigit (hr x hx))
    rcases List.mem_cons.mp hx with rfl | hx
    · exact List.mem_cons_self
    · exact List.mem_cons_of_mem _ (mem_digits_of_isDigit (hp x hx))

/-- What holds of the point and of every digit holds of every character of a numeral. -/
theorem forall_mem (h : Numeral cs) {p : Char → Bool} (hp : ('.' :: digits).all p = true) :
    ∀ x ∈ cs, p x = true := fun x hx => List.all_eq_true.mp hp x (h.mem hx)

/-- A numeral begins with a digit. -/
theorem exists_cons (h : Numeral cs) : ∃ c tail, cs = c :: tail ∧ c ∈ digits := by
  obtain ⟨c, tail, rfl⟩ := List.exists_cons_of_ne_nil h.ne_nil
  refine ⟨c, tail, rfl, mem_digits_of_isDigit ?_⟩
  rcases h.shape with hd | ⟨run, part, hrun, hne, hr, -⟩
  · exact hd c (by simp)
  · obtain ⟨d, run, rfl⟩ := List.exists_cons_of_ne_nil hne
    cases hrun
    exact hr c (by simp)

theorem trim_eq (h : Numeral cs) : trim cs = cs := by
  have hb : ∀ x ∈ cs, ¬ isBlank x = true := fun x hx => by
    simpa using h.forall_mem (show ('.' :: digits).all (!isBlank ·) = true by decide +kernel) x hx
  have front : cs.dropWhile isBlank = cs := by
    rw [List.dropWhile_eq_self_iff]
    exact fun hl => hb _ (List.getElem_mem _)
  have back : cs.reverse.dropWhile isBlank = cs.reverse := by
    rw [List.dropWhile_eq_self_iff]
    exact fun hl => hb _ (List.mem_reverse.mp (List.getElem_mem _))
  rw [trim, front, trimEnd, dropWhileEnd, back, List.reverse_reverse]

theorem splitSign_eq (h : Numeral cs) : Decimal.splitSign cs = (false, cs) := by
  obtain ⟨c, tail, rfl, hc⟩ := h.exists_cons
  unfold Decimal.splitSign
  split
  · next same =>
    cases same
    exact absurd hc (by decide)
  · next same =>
    cases same
    exact absurd hc (by decide)
  · rfl

theorem joinDigits_eq {ds : List Char} (h : ∀ x ∈ ds, x ∈ digits) :
    Decimal.joinDigits ds = some ds := by
  have digit : ∀ x ∈ digits, isDecimalDigit x = true := List.all_eq_true.mp (by decide +kernel)
  fun_induction Decimal.joinDigits ds with
  | case1 => rfl
  | case2 => rfl
  | case3 c hc => exact absurd (digit c (h c (by simp))) hc
  | case4 | case5 => exact absurd (h '_' (by simp)) (by decide)
  | case6 c r _ _ _ ih => rw [ih fun x hx => h x (by simp [hx])]; rfl
  | case7 c r _ _ hc => exact absurd (digit c (h c (by simp))) hc

/-- The digits before the point and those behind it. -/
theorem parts (h : Numeral cs) : ∃ run part, cs.takeWhile (· != '.') = run ∧
    (cs.dropWhile (· != '.')).drop 1 = part ∧ run ≠ [] ∧ (∀ x ∈ run, x ∈ digits) ∧
    ∀ x ∈ part, x ∈ digits := by
  have no : ∀ d ∈ digits, (d != '.') = true := List.all_eq_true.mp (by decide)
  have apart (run : List Char) (hr : ∀ x ∈ run, isDigit x = true) :
      ∀ x ∈ run, (x != '.') = true := fun x hx => no x (mem_digits_of_isDigit (hr x hx))
  rcases h.shape with hd | ⟨run, part, rfl, hne, hr, hp⟩
  · refine ⟨cs, [], List.takeWhile_eq_self_iff.mpr (apart cs hd), ?_, h.ne_nil,
      fun x hx => mem_digits_of_isDigit (hd x hx), by simp⟩
    rw [List.dropWhile_eq_nil_iff.mpr (apart cs hd)]
    rfl
  · have stop : ∀ x ∈ ('.' :: part).head?, (x != '.') = false := by simp
    refine ⟨run, part, takeWhile_run (apart run hr) stop, ?_, hne,
      fun x hx => mem_digits_of_isDigit (hr x hx), fun x hx => mem_digits_of_isDigit (hp x hx)⟩
    rw [dropWhile_run (apart run hr) stop]
    rfl

theorem readUnsigned_eq (h : Numeral cs) :
    Decimal.readUnsigned cs = some (Decimal.ofNumeral cs) := by
  have mark : ∀ x ∈ cs, (!(x == 'e' || x == 'E')) = true := h.forall_mem (by decide)
  obtain ⟨run, part, hrun, hpart, hne, hr, hp⟩ := h.parts
  have whole : run.isEmpty = false := by simpa using hne
  simp only [Decimal.readUnsigned, Decimal.ofNumeral, List.takeWhile_eq_self_iff.mpr mark,
    List.dropWhile_eq_nil_iff.mpr mark, hrun, hpart, joinDigits_eq hr, joinDigits_eq hp, whole,
    Bool.false_and]
  rfl

/-- A numeral read as a full number is the number that it stands for. -/
theorem read?_eq (h : Numeral cs) :
    Double.read? (String.ofList cs) = some ((Decimal.ofNumeral cs).toDouble false) := by
  obtain ⟨c, tail, hcs, hc⟩ := h.exists_cons
  have lower : ∀ x ∈ digits, (x.toLower == x) = true := List.all_eq_true.mp (by decide)
  have head : (cs.map Char.toLower).head? = some c := by
    rw [hcs, List.map_cons, List.head?_cons, beq_iff_eq.mp (lower c hc)]
  -- no name of infinity or of what is no number begins with a digit
  have name : ∀ name : String, name.toList.head? ≠ some c →
      String.ofList (cs.map Char.toLower) ≠ name := by
    rintro _ hn rfl
    rw [String.toList_ofList] at hn
    exact hn head
  have letter : c ≠ 'i' ∧ c ≠ 'n' :=
    ⟨fun hi => absurd (hi ▸ hc) (by decide), fun hi => absurd (hi ▸ hc) (by decide)⟩
  simp only [Double.read?, String.toList_ofList, h.trim_eq, h.splitSign_eq, h.readUnsigned_eq]
  split
  · next same => exact absurd same (name "inf" (by simpa using letter.1.symm))
  · next same => exact absurd same (name "infinity" (by simpa using letter.1.symm))
  · next same => exact absurd same (name "nan" (by simpa using letter.2.symm))
  · rfl

end Numeral

end LoxScan
