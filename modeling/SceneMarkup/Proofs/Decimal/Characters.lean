import SceneMarkup.Decimal.Layout
import SceneMarkup.Decimal.Numeral

/-!
# Characters of number texts

The texts of numbers, written or read, are made of letters, digits, points and signs only
(`isFigure`): so none of them can end a quoted value, a declaration or a tag.
-/

namespace SceneMarkup

/-- The characters of number texts, those of `NaN` and `inf` among them. -/
def isFigure (c : Char) : Bool := c.isAlphanum || c == '.' || c == '-' || c == '+'

def Figures (text : List Char) : Prop := ∀ c ∈ text, isFigure c = true

instance (text : List Char) : Decidable (Figures text) :=
  decidable_of_iff (text.all isFigure = true) List.all_eq_true

theorem isFigure_of_isDigit {c : Char} (h : c.isDigit = true) : isFigure c = true := by
  simp only [isFigure, Char.isAlphanum, h, Bool.or_true, Bool.true_or]

theorem figures_of_all_isDigit {text : List Char} (h : text.all Char.isDigit = true) :
    Figures text := fun c hc => isFigure_of_isDigit (List.all_eq_true.mp h c hc)

theorem Figures.append {a b : List Char} (ha : Figures a) (hb : Figures b) : Figures (a ++ b) :=
  List.forall_mem_append.mpr ⟨ha, hb⟩

theorem Figures.cons {c : Char} {a : List Char} (hc : isFigure c = true) (ha : Figures a) :
    Figures (c :: a) := List.forall_mem_cons.mpr ⟨hc, ha⟩

theorem Figures.not_mem {c : Char} {a : List Char} (ha : Figures a) (hc : isFigure c = false) :
    c ∉ a := fun h => by simpa [hc] using ha c h

/-! ## Written numbers -/

theorem figures_repr (n : Nat) : Figures n.repr.toList := fun c hc =>
  isFigure_of_isDigit (Nat.isDigit_of_mem_toDigits (by decide) (by decide) (Nat.toList_repr ▸ hc))

theorem figures_zeros (n : Nat) : Figures (List.replicate n '0') := fun c hc => by
  rw [List.eq_of_mem_replicate hc]; decide

theorem figures_sign (negative : Bool) : Figures (if negative then "-" else "").toList := by
  cases negative <;> decide

theorem Decimal.figures_plainText (pointZero : Bool) (d : Decimal) :
    Figures (d.plainText pointZero).toList := by
  have hdigits := figures_repr d.digits
  unfold plainText
  simp only
  split
  · simp only [String.toList_append, String.toList_ofList]
    refine (hdigits.append (figures_zeros _)).append ?_
    cases pointZero <;> decide
  · have hpadded :=
      (figures_zeros ((-d.exponent).toNat + 1 - d.digits.repr.toList.length)).append hdigits
    simp only [String.toList_append, String.toList_ofList]
    refine Figures.append (Figures.append ?_ (by decide)) ?_
    · exact fun c hc => hpadded c (List.mem_of_mem_take hc)
    · exact fun c hc => hpadded c (List.mem_of_mem_drop hc)

theorem Decimal.figures_scientificText (d : Decimal) : Figures d.scientificText.toList := by
  have hdigits := figures_repr d.digits
  unfold scientificText
  simp only [String.toList_append]
  refine Figures.append (Figures.append (Figures.append ?_ (by decide)) ?_) (figures_repr _)
  · split
    · decide
    · rename_i c h
      rw [h] at hdigits
      simpa using hdigits
    · rename_i c rest _ h
      rw [h] at hdigits
      simp only [String.toList_append, String.toList_ofList, Char.toString, String.toList_singleton]
      exact Figures.append (Figures.cons (hdigits c (.head _)) (by decide))
        fun x hx => hdigits x (.tail _ hx)
  · split <;> decide

theorem Decimal.figures_text (layout : Layout) (d : Decimal) : Figures (d.text layout).toList := by
  unfold text
  split
  · exact figures_plainText _ _
  · exact figures_scientificText _

theorem figures_nonFinite (x : Float) :
    Figures (if x.isNaN then "NaN" else if x < 0 then "-inf" else "inf").toList := by
  split
  · decide
  · split <;> decide

theorem Layout.figures_text (layout : Layout) (x : Float) : Figures (layout.text x).toList := by
  unfold text
  cases Binary.ofFloat? x with
  | none => exact figures_nonFinite x
  | some b =>
    rw [String.toList_append]
    exact (figures_sign _).append (Decimal.figures_text layout _)

theorem figures_int (n : Int) : Figures (toString n).toList := by
  rw [Int.toString_eq_repr, Int.repr_eq_if]
  split
  · exact figures_repr _
  · rw [String.toList_append]
    exact Figures.append (by decide) (figures_repr _)

/-! ## Numbers that are read -/

theorem figures_splitSign {text : List Char} (h : Figures (Numeral.splitSign text).2) :
    Figures text := by
  unfold Numeral.splitSign at h
  split at h
  · exact Figures.cons (by decide) h
  · exact Figures.cons (by decide) h
  · exact h

theorem Numeral.figures_exponent {text : List Char} {n : Int} (h : exponent? text = some n) :
    Figures text := by
  refine figures_splitSign (figures_of_all_isDigit ?_)
  unfold exponent? at h
  simp only [Option.ite_none_left_eq_some, Bool.or_eq_true, not_or, Bool.not_eq_true',
    Bool.not_eq_false] at h
  exact h.1.2

theorem figures_of_dropWhile_isDigit {text : List Char}
    (h : Figures (text.dropWhile Char.isDigit)) : Figures text := by
  rw [← List.takeWhile_append_dropWhile (p := Char.isDigit) (l := text)]
  exact (figures_of_all_isDigit List.all_takeWhile).append h

/-- What follows the digits of a numeral is nothing or an exponent. -/
theorem Numeral.figures_rest {negative : Bool} {whole fraction rest : List Char} {n : Numeral}
    (h : (match rest with
      | [] => some ⟨negative, whole, fraction, 0⟩
      | c :: tail =>
        if c == 'e' || c == 'E' then (exponent? tail).map (⟨negative, whole, fraction, ·⟩)
        else none) = some n) : Figures rest := by
  cases rest with
  | nil => exact List.forall_mem_nil _
  | cons c tail =>
    simp only [Option.ite_none_right_eq_some, Bool.or_eq_true, beq_iff_eq,
      Option.map_eq_some_iff] at h
    obtain ⟨hc, _, he, -⟩ := h
    exact Figures.cons (by rcases hc with rfl | rfl <;> decide) (figures_exponent he)

theorem figures_of_fraction {after : List Char}
    (h : Figures (match after with
      | '.' :: tail => (tail.takeWhile Char.isDigit, tail.dropWhile Char.isDigit)
      | _ => ([], after)).2) : Figures after := by
  split at h
  · exact Figures.cons (by decide) (figures_of_dropWhile_isDigit h)
  · exact h

theorem Numeral.figures_ofUnsigned {negative : Bool} {text : List Char} {n : Numeral}
    (h : ofUnsigned? negative text = some n) : Figures text := by
  simp only [ofUnsigned?, Option.ite_none_left_eq_some] at h
  exact figures_of_dropWhile_isDigit (figures_of_fraction (figures_rest h.2))

theorem isFigure_of_toLower {c : Char} (h : c.toLower.isAlpha = true) : isFigure c = true := by
  unfold Char.toLower at h
  split at h
  · rename_i hc
    have hupper : c.isUpper = true := decide_eq_true hc
    have halpha : c.isAlpha = true := by
      show (c.isUpper || c.isLower) = true
      rw [hupper, Bool.true_or]
    simp only [isFigure, Char.isAlphanum, halpha, Bool.true_or]
  · simp only [isFigure, Char.isAlphanum, h, Bool.true_or]

theorem figures_of_word {text : List Char} {word : String}
    (h : String.ofList (text.map Char.toLower) = word)
    (hword : word.toList.all Char.isAlpha = true) : Figures text := fun c hc => by
  subst h
  simp only [String.toList_ofList, List.all_eq_true, List.forall_mem_map] at hword
  exact isFigure_of_toLower (hword c hc)

theorem figures_of_floatOfText {text : List Char} {x : Float} (h : floatOfText? text = some x) :
    Figures text := by
  refine figures_splitSign ?_
  unfold floatOfText? at h
  simp only [beq_iff_eq, Bool.or_eq_true] at h
  split at h
  · rename_i hword
    rcases hword with hword | hword <;> exact figures_of_word hword (by decide)
  · split at h
    · rename_i hword
      exact figures_of_word hword (by decide)
    · obtain ⟨n, hn, -⟩ := Option.map_eq_some_iff.mp h
      exact Numeral.figures_ofUnsigned hn

end SceneMarkup
