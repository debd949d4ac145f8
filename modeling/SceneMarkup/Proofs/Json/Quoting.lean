import SceneMarkup.Json.StringText
import SceneMarkup.Json.Value

/-!
# Quoted strings

A string that is written between quotes is scanned to its end, and a reader decodes it to itself
(`exists_scanString_quoted`).
-/

namespace SceneMarkup.Json

open Value (quotedChar)

theorem codeUnit_control :
    ∀ n < 32, ∃ a b : Char,
      (List.replicate (4 - (Text.hexDigits n).length) '0' ++ Text.hexDigits n = ['0', '0', a, b] ∧
        Text.hexValue? a = some (n / 16) ∧ Text.hexValue? b = some (n % 16)) := by
  have hdigits : ∀ n < 32,
      List.replicate (4 - (Text.hexDigits n).length) '0' ++ Text.hexDigits n =
          ['0', '0', (n / 16).digitChar, (n % 16).digitChar] ∧
        Text.hexValue? (n / 16).digitChar = some (n / 16) ∧
          Text.hexValue? (n % 16).digitChar = some (n % 16) := by decide
  exact fun n hn => ⟨_, _, hdigits n hn⟩

theorem exists_scanEscape_control (mode : Mode) {c : Char} (hc : c.toNat < 0x20) (p : Position)
    (rest : List Char) :
    ∃ d q, scanEscape mode
        ⟨p, 'u' :: (List.replicate (4 - (Text.hexDigits c.toNat).length) '0' ++
          Text.hexDigits c.toNat ++ rest)⟩ = .ok (d, ⟨q, rest⟩) ∧ (mode = .read → d = c) := by
  obtain ⟨a, b, hdigits, ha, hb⟩ := codeUnit_control c.toNat hc
  have hzero : Text.hexValue? '0' = some 0 := by decide
  have hunit : scanCodeUnit ⟨p.next, '0' :: '0' :: a :: b :: rest⟩ =
      .ok (c.toNat, ⟨p.next.next.next.next.next, rest⟩) := by
    simp only [scanCodeUnit, hzero, ha, hb]
    congr 2
    omega
  simp only [hdigits, List.cons_append, List.nil_append, scanEscape, hunit]
  cases mode with
  | skim => exact ⟨'?', _, rfl, nofun⟩
  | read =>
    have htrailing : isTrailing c.toNat = false := by simp [isTrailing]; omega
    have hleading : isLeading c.toNat = false := by simp [isLeading]; omega
    refine ⟨c, p.next.next.next.next.next, ?_, fun _ => rfl⟩
    simp only [bind, Except.bind, reduceCtorEq, if_false, htrailing, hleading, Bool.false_eq_true]
    rw [Char.ofNat_toNat]
    rfl

/-- One step of the scan takes one written character. -/
theorem exists_scanChars_quotedChar (mode : Mode) (c : Char) (fuel : Nat) (content : List Char)
    (p : Position) (rest : List Char) :
    ∃ d q, scanChars mode (fuel + 1) content ⟨p, quotedChar c ++ rest⟩ =
      scanChars mode fuel (d :: content) ⟨q, rest⟩ ∧ (mode = .read → d = c) := by
  have hletter {e : Char} (he : simpleEscape? e = some c) (hu : e ≠ 'u') :
      ∃ d q, scanChars mode (fuel + 1) content ⟨p, ['\\', e] ++ rest⟩ =
        scanChars mode fuel (d :: content) ⟨q, rest⟩ ∧ (mode = .read → d = c) := by
    refine ⟨c, p.next.next, ?_, fun _ => rfl⟩
    simp only [List.cons_append, List.nil_append, scanChars]
    simp [scanEscape, he, bind, Except.bind, pure, Except.pure]
  unfold quotedChar
  split
  case h_8 hquote hbackslash _ _ _ _ _ =>
    split
    · rename_i hcontrol
      obtain ⟨d, q, hescape, hread⟩ := exists_scanEscape_control mode hcontrol p.next rest
      refine ⟨d, q, ?_, hread⟩
      simp only [List.cons_append, List.nil_append, scanChars, hescape]
      rfl
    · rename_i hcontrol
      refine ⟨c, p.past c, ?_, fun _ => rfl⟩
      rw [List.singleton_append, scanChars]
      split
      · rename_i heq
        cases heq
      · rename_i heq
        exact absurd (List.cons.inj heq).1 hquote
      · rename_i heq
        exact absurd (List.cons.inj heq).1 hbackslash
      · rename_i heq
        cases heq
        exact if_neg hcontrol
  all_goals exact hletter rfl (by decide)

theorem exists_scanChars_quoted (mode : Mode) {s : List Char} {fuel : Nat} (hfuel : s.length < fuel)
    (content : List Char) (p : Position) (rest : List Char) :
    ∃ content' q, scanChars mode fuel content ⟨p, s.flatMap quotedChar ++ '"' :: rest⟩ =
      .ok (content', ⟨q, rest⟩) ∧ (mode = .read → content' = s.reverse ++ content) := by
  induction s generalizing fuel content p with
  | nil =>
    obtain ⟨n, rfl⟩ := Nat.exists_eq_add_one.mpr hfuel
    exact ⟨content, p.next, rfl, fun _ => rfl⟩
  | cons c s ih =>
    rw [List.length_cons] at hfuel
    obtain ⟨n, rfl⟩ : ∃ n, fuel = n + 1 := ⟨fuel - 1, by omega⟩
    obtain ⟨d, q, hstep, hd⟩ := exists_scanChars_quotedChar mode c n content p
      (s.flatMap quotedChar ++ '"' :: rest)
    obtain ⟨content', q', hscan, hcontent⟩ := ih (show s.length < n by omega) (d :: content) q
    refine ⟨content', q', ?_, fun hmode => ?_⟩
    · rw [List.flatMap_cons, List.append_assoc, hstep, hscan]
    · rw [hcontent hmode, hd hmode, List.reverse_cons, List.append_assoc, List.singleton_append]

/-- **A quoted string is scanned to its closing quote, and read as the string.** -/
theorem exists_scanString_quoted (s : String) {fuel : Nat} (hfuel : s.toList.length < fuel)
    (p : Position) (rest : List Char) :
    ∃ skimmed q q', scanString .skim fuel ⟨p, s.toList.flatMap quotedChar ++ '"' :: rest⟩ =
        .ok (skimmed, ⟨q, rest⟩) ∧
      scanString .read fuel ⟨p, s.toList.flatMap quotedChar ++ '"' :: rest⟩ =
        .ok (s, ⟨q', rest⟩) := by
  obtain ⟨skimmed, q, hskim, -⟩ := exists_scanChars_quoted .skim hfuel [] p rest
  obtain ⟨content, q', hread, hcontent⟩ := exists_scanChars_quoted .read hfuel [] p rest
  refine ⟨_, q, q', by rw [scanString, hskim]; rfl, ?_⟩
  rw [scanString, hread, hcontent rfl, List.append_nil]
  simp [bind, Except.bind, pure, Except.pure, String.ofList_toList]

end SceneMarkup.Json
