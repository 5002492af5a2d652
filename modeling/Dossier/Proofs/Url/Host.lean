import Mathlib.Algebra.Group.Nat.Defs
import Dossier.Proofs.Url.Marks

/-!
# Url — the text of a host tells the host

A host that is read is well-formed: a name holds no mark, and a name of a special scheme does not
end in a number, as an IPv4 address does; an address has the size of its kind.

* `Host.ipv4Text_injective`, `Host.ipv6Text_injective`: addresses have different texts.
* `Host.text_append_inj`: a host ends at the colon behind it, though it may hold colons itself.
* `Host.text_injective`: well-formed hosts of one kind of scheme have different texts.
-/

namespace Dossier.Host

/-- What a name does not hold. -/
def nameMarks : List Char := ['/', '?', '#', '@', ':', '[', ']']

/-- The host is one that a scheme of this kind can have. -/
def WellFormed (special : Bool) : Host → Prop
  | .name text => Avoids text.toList nameMarks
    ∧ (special = true → endsInNumber text.toList = false)
  | .ipv4 address => special = true ∧ address < 256 ^ 4
  | .ipv6 pieces => pieces.length = 8

/-! ### Numbers -/

theorem isDigit_of_mem_toString {n : Nat} {c : Char} (h : c ∈ (toString n).toList) :
    c.isDigit = true := by
  rw [Nat.toString_eq_ofList_toDigits, String.toList_ofList] at h
  exact Nat.isDigit_of_mem_toDigits (by decide) (by decide) h

theorem toString_ne_nil (n : Nat) : (toString n).toList ≠ [] := by
  rw [Nat.toString_eq_ofList_toDigits, String.toList_ofList]
  exact Nat.toDigits_ne_nil

theorem avoids_toString (n : Nat) : Avoids (toString n).toList ('.' :: nameMarks) := by
  intro c hc hm
  have digit := isDigit_of_mem_toString hc
  have marks : ('.' :: nameMarks).all (! ·.isDigit) = true := by decide
  have mark := List.all_eq_true.mp marks c hm
  rw [digit] at mark
  cases mark

/-- Numbers have different texts. -/
theorem toString_injective {m n : Nat} (h : (toString m).toList = (toString n).toList) : m = n := by
  simp only [Nat.toString_eq_ofList_toDigits, String.toList_ofList] at h
  calc m = Nat.ofDigitChars 10 (Nat.toDigits 10 m) 0 := Nat.ofDigitChars_ten_toDigits.symm
    _ = Nat.ofDigitChars 10 (Nat.toDigits 10 n) 0 := by rw [h]
    _ = n := Nat.ofDigitChars_ten_toDigits

theorem append_digit_ne (n : Nat) (c d : Char) : Nat.toDigits 16 n ++ [c] ≠ [d] := by
  intro h
  have length := congrArg List.length h
  have positive : 0 < (Nat.toDigits 16 n).length := Nat.length_toDigits_pos
  rw [List.length_append, List.length_singleton, List.length_singleton] at length
  omega

/-- Numbers in base sixteen have different texts. -/
theorem toDigits_sixteen_injective {m n : Nat} (h : Nat.toDigits 16 m = Nat.toDigits 16 n) :
    m = n := by
  have digit : ∀ a < 16, ∀ b < 16, Nat.digitChar a = Nat.digitChar b → a = b := by decide
  induction m using Nat.strongRecOn generalizing n with
  | ind m ih =>
    rw [Nat.toDigits_eq_if (by decide), Nat.toDigits_eq_if (n := n) (by decide)] at h
    split at h <;> split at h
    · next hm hn => exact digit m hm n hn (List.cons.inj h).1
    · exact absurd h.symm (append_digit_ne (n / 16) _ _)
    · exact absurd h (append_digit_ne (m / 16) _ _)
    · obtain ⟨hdiv, hmod⟩ := List.append_inj' h rfl
      have := ih (m / 16) (by omega) hdiv
      have := digit _ (Nat.mod_lt m (by decide)) _ (Nat.mod_lt n (by decide)) (List.cons.inj hmod).1
      omega

theorem avoids_toDigits_sixteen (n : Nat) : Avoids (Nat.toDigits 16 n) nameMarks := by
  have digit : ∀ k < 16, Nat.digitChar k ∉ nameMarks := by decide
  induction n using Nat.strongRecOn with
  | ind n ih =>
    rw [Nat.toDigits_eq_if (by decide)]
    split
    · next hn => exact (Avoids.nil _).cons (digit n hn)
    · exact (ih (n / 16) (by omega)).append
        ((Avoids.nil _).cons (digit _ (Nat.mod_lt n (by decide))))

/-! ### IPv4 -/

/-- The four bytes of an address as they are written. -/
def byteTexts (address : Nat) : List (List Char) :=
  [3, 2, 1, 0].map fun k => (toString (address / Nat.pow 256 k % 256)).toList

theorem toList_ipv4Text (address : Nat) :
    (ipv4Text address).toList = ['.'].intercalate (byteTexts address) := by
  simp [ipv4Text, byteTexts]

theorem splitOn_ipv4Text (address : Nat) :
    (ipv4Text address).toList.splitOn '.' = byteTexts address := by
  rw [toList_ipv4Text]
  refine List.splitOn_intercalate '.' (fun l hl hdot => ?_) (List.cons_ne_nil _ _)
  obtain ⟨k, -, rfl⟩ := List.mem_map.mp hl
  exact avoids_toString _ '.' hdot (List.mem_cons_self ..)

/-- Addresses of four bytes have different texts. -/
theorem ipv4Text_injective {a b : Nat} (ha : a < 256 ^ 4) (hb : b < 256 ^ 4)
    (h : ipv4Text a = ipv4Text b) : a = b := by
  have same : byteTexts a = byteTexts b := by
    rw [← splitOn_ipv4Text, ← splitOn_ipv4Text, h]
  have byte (k : Nat) (hk : k ∈ [3, 2, 1, 0]) : a / 256 ^ k % 256 = b / 256 ^ k % 256 :=
    toString_injective (List.map_inj_left.mp same k hk)
  have := byte 3 (by decide)
  have := byte 2 (by decide)
  have := byte 1 (by decide)
  have := byte 0 (by decide)
  omega

/-- The text of an IPv4 address ends in a number. -/
theorem endsInNumber_ipv4Text (address : Nat) :
    endsInNumber (ipv4Text address).toList = true := by
  have parts : splitWhere (· = '.') (ipv4Text address).toList = byteTexts address :=
    (splitWhere_eq ..).trans (splitOn_ipv4Text address)
  have last : (byteTexts address).getLast? = some (toString (address / 256 ^ 0 % 256)).toList := rfl
  have full := toString_ne_nil (address / 256 ^ 0 % 256)
  have digits : (toString (address / 256 ^ 0 % 256)).toList.all Char.isDigit = true :=
    List.all_eq_true.mpr fun c hc => isDigit_of_mem_toString hc
  have dotted : dottedParts (ipv4Text address).toList = byteTexts address := by
    rw [dottedParts, parts, if_neg fun h => full (Option.some.inj (last.symm.trans h.2))]
  simp only [endsInNumber, dotted, last, digits, ne_eq, full, not_false_eq_true, decide_true,
    Bool.and_self, Bool.true_or]

theorem avoids_ipv4Text (address : Nat) : Avoids (ipv4Text address).toList nameMarks := by
  rw [toList_ipv4Text]
  refine .intercalate (by decide) fun part hp => ?_
  obtain ⟨k, -, rfl⟩ := List.mem_map.mp hp
  exact (avoids_toString _).mono (List.subset_cons_self ..)

/-! ### IPv6 -/

/-- The longest row of zeros stands where it is said to stand. -/
theorem exists_longestZeros (place : Nat) (pieces : List Nat) :
    ∃ before after, (longestZeros place pieces).1 = place + before.length
      ∧ pieces = before ++ List.replicate (longestZeros place pieces).2 0 ++ after := by
  induction pieces generalizing place with
  | nil => exact ⟨[], [], rfl, rfl⟩
  | cons n rest ih =>
      simp only [longestZeros]
      split
      · refine ⟨[], (n :: rest).dropWhile (· = 0), rfl, ?_⟩
        have zeros : (n :: rest).takeWhile (· = 0)
            = List.replicate (leadingZeros (n :: rest)) 0 :=
          List.eq_replicate_iff.mpr ⟨rfl, fun m hm =>
            of_decide_eq_true (List.all_eq_true.mp List.all_takeWhile m hm)⟩
        rw [List.nil_append, ← zeros, List.takeWhile_append_dropWhile]
      · obtain ⟨before, after, hplace, hrest⟩ := ih (place + 1)
        refine ⟨n :: before, after, ?_, ?_⟩
        · rw [hplace, List.length_cons]
          omega
        · rw [List.cons_append, List.cons_append, ← hrest]

/-- The parts of some pieces between the colons; no pieces are a single part without a digit. -/
def colonParts (pieces : List Nat) : List (List Char) :=
  if pieces = [] then [[]] else pieces.map (Nat.toDigits 16)

theorem toList_colonText (pieces : List Nat) :
    (colonText pieces).toList = [':'].intercalate (pieces.map (Nat.toDigits 16)) := by
  simp [colonText, Function.comp_def]

theorem splitOn_colonText (pieces : List Nat) :
    (colonText pieces).toList.splitOn ':' = colonParts pieces := by
  rw [toList_colonText, colonParts]
  split
  · next h =>
    subst h
    rfl
  · next h =>
    refine List.splitOn_intercalate ':' (fun l hl hcolon => ?_) fun hn =>
      h (List.map_eq_nil_iff.mp hn)
    obtain ⟨n, -, rfl⟩ := List.mem_map.mp hl
    exact avoids_toDigits_sixteen n ':' hcolon (by decide)

/-- The parts of an address are its pieces, or those before and those behind a row of zeros with an
empty part between. -/
theorem splitOn_ipv6Text (pieces : List Nat) :
    (ipv6Text pieces).toList.splitOn ':' = colonParts pieces
      ∨ ∃ before length after, pieces = before ++ List.replicate length 0 ++ after
        ∧ (ipv6Text pieces).toList.splitOn ':' = colonParts before ++ [] :: colonParts after := by
  obtain ⟨before, after, hplace, hpieces⟩ := exists_longestZeros 0 pieces
  generalize hl : longestZeros 0 pieces = found at hplace hpieces
  obtain ⟨place, length⟩ := found
  simp only [Nat.zero_add] at hplace hpieces
  simp only [ipv6Text, hl]
  split
  · exact .inl (splitOn_colonText pieces)
  · refine .inr ⟨before, length, after, hpieces, ?_⟩
    have taken : pieces.take place = before := by
      rw [hpieces, hplace, List.append_assoc, List.take_left]
    have dropped : pieces.drop (place + length) = after := by
      rw [hpieces, hplace]
      exact List.drop_left' (by simp)
    rw [taken, dropped, String.toList_append, String.toList_append, List.append_assoc]
    calc
      _ = List.splitOn ':' ((colonText before).toList
          ++ ':' :: ([] ++ ':' :: (colonText after).toList)) := rfl
      _ = (colonText before).toList.splitOn ':'
          ++ ([].splitOn ':' ++ (colonText after).toList.splitOn ':') := by
        rw [List.splitOn_append_cons_self, List.splitOn_append_cons_self]
      _ = colonParts before ++ [] :: colonParts after := by
        rw [splitOn_colonText, splitOn_colonText]
        rfl

/-- The parts that have digits, up to one that has none, are the pieces. -/
theorem takeWhile_colonParts (pieces : List Nat) {rest : List (List Char)}
    (h : ∀ part ∈ rest.head?, part = []) :
    (colonParts pieces ++ rest).takeWhile (· ≠ []) = pieces.map (Nat.toDigits 16) := by
  have stops : rest.takeWhile (· ≠ []) = [] := by
    cases rest with
    | nil => rfl
    | cons part more =>
        obtain rfl := h part rfl
        rfl
  by_cases hp : pieces = []
  · subst hp
    rfl
  · have full : ∀ part ∈ pieces.map (Nat.toDigits 16), decide (part ≠ []) = true := by
      intro part hpart
      obtain ⟨n, -, rfl⟩ := List.mem_map.mp hpart
      exact decide_eq_true Nat.toDigits_ne_nil
    rw [colonParts, if_neg hp, List.takeWhile_append_of_pos full, stops, List.append_nil]

theorem map_toDigits_injective {a b : List Nat}
    (h : a.map (Nat.toDigits 16) = b.map (Nat.toDigits 16)) : a = b :=
  (List.map_inj_right fun _ _ => toDigits_sixteen_injective).mp h

/-- The parts of some pieces tell the pieces, whatever follows a row of zeros behind them. -/
theorem eq_of_colonParts_append {a b : List Nat} {rest more : List (List Char)}
    (hr : ∀ part ∈ rest.head?, part = []) (hm : ∀ part ∈ more.head?, part = [])
    (h : colonParts a ++ rest = colonParts b ++ more) : a = b ∧ rest = more := by
  have parts := congrArg (List.takeWhile (· ≠ [])) h
  rw [takeWhile_colonParts a hr, takeWhile_colonParts b hm] at parts
  obtain rfl := map_toDigits_injective parts
  exact ⟨rfl, List.append_cancel_left h⟩

/-- Addresses of eight pieces have different texts. -/
theorem ipv6Text_injective {a b : List Nat} (ha : a.length = 8) (hb : b.length = 8)
    (h : ipv6Text a = ipv6Text b) : a = b := by
  have zeros {parts : List (List Char)} : ∀ part ∈ ([] :: parts).head?, part = [] :=
    fun _ hp => (Option.some.inj hp).symm
  have nothing : ∀ part ∈ ([] : List (List Char)).head?, part = [] := fun _ hp => nomatch hp
  have same : (ipv6Text a).toList.splitOn ':' = (ipv6Text b).toList.splitOn ':' := by rw [h]
  rcases splitOn_ipv6Text a with ea | ⟨before, length, after, rfl, ea⟩ <;>
    rcases splitOn_ipv6Text b with eb | ⟨before', length', after', rfl, eb⟩ <;>
    rw [ea, eb] at same
  · exact (eq_of_colonParts_append nothing nothing (congrArg (· ++ []) same)).1
  · have := (eq_of_colonParts_append nothing zeros ((List.append_nil _).trans same)).2
    cases this
  · have := (eq_of_colonParts_append zeros nothing (same.trans (List.append_nil _).symm)).2
    cases this
  · obtain ⟨rfl, parts⟩ := eq_of_colonParts_append zeros zeros same
    obtain ⟨rfl, -⟩ := eq_of_colonParts_append nothing nothing
      (congrArg (· ++ []) (List.cons.inj parts).2)
    simp only [List.length_append, List.length_replicate] at ha hb
    obtain rfl : length = length' := by omega
    rfl

theorem avoids_colonText {marks : List Char} (hm : marks ⊆ nameMarks)
    (hc : ':' ∉ marks) (pieces : List Nat) : Avoids (colonText pieces).toList marks := by
  rw [toList_colonText]
  refine .intercalate hc fun part hp => ?_
  obtain ⟨n, -, rfl⟩ := List.mem_map.mp hp
  exact (avoids_toDigits_sixteen n).mono hm

theorem avoids_ipv6Text {marks : List Char} (hm : marks ⊆ nameMarks)
    (hc : ':' ∉ marks) (pieces : List Nat) : Avoids (ipv6Text pieces).toList marks := by
  have colon : Avoids "::".toList marks := ((Avoids.nil _).cons hc).cons hc
  unfold ipv6Text
  split
  split
  · exact avoids_colonText hm hc _
  · rw [String.toList_append, String.toList_append]
    exact ((avoids_colonText hm hc _).append colon).append (avoids_colonText hm hc _)

/-! ### Hosts -/

/-- What ends an authority, or stands in front of its host. -/
def outerMarks : List Char := ['/', '?', '#', '@']

variable {special : Bool} {h h' : Host}

theorem toList_text_ipv6 (pieces : List Nat) :
    (Host.ipv6 pieces).text.toList = '[' :: ((ipv6Text pieces).toList ++ [']']) := by
  rw [text, String.toList_append, String.toList_append, List.append_assoc]
  rfl

/-- A host is a text without marks, or is enclosed in brackets. -/
theorem WellFormed.plain_or_enclosed (w : h.WellFormed special) :
    Avoids h.text.toList nameMarks
      ∨ ∃ inner, h.text.toList = '[' :: (inner ++ [']']) ∧ Avoids inner (']' :: outerMarks) := by
  cases h with
  | name text => exact .inl w.1
  | ipv4 address => exact .inl (avoids_ipv4Text address)
  | ipv6 pieces =>
      exact .inr ⟨_, toList_text_ipv6 pieces, avoids_ipv6Text (by decide) (by decide) pieces⟩

theorem WellFormed.avoids (w : h.WellFormed special) : Avoids h.text.toList outerMarks := by
  rcases w.plain_or_enclosed with plain | ⟨inner, enclosed, hinner⟩
  · exact plain.mono (by decide)
  · rw [enclosed]
    exact ((hinner.mono (List.subset_cons_self ..)).append (by decide)).cons (by decide)

/-- A text without marks is not enclosed in brackets, whatever follows. -/
theorem append_ne_enclosed {cs inner c d : List Char} (hcs : Avoids cs nameMarks)
    (hc : ∀ x ∈ c.head?, x ∈ [':']) : cs ++ c ≠ '[' :: inner ++ d := by
  intro h
  cases cs with
  | nil =>
      rw [List.nil_append] at h
      subst h
      exact absurd (hc '[' rfl) (by decide)
  | cons x cs =>
      obtain rfl := (List.cons.inj h).1
      exact hcs '[' (List.mem_cons_self ..) (by decide)

/-- A host ends at the colon behind it. -/
theorem text_append_inj {c d : List Char} (w : h.WellFormed special) (w' : h'.WellFormed special)
    (hc : ∀ x ∈ c.head?, x ∈ [':']) (hd : ∀ x ∈ d.head?, x ∈ [':'])
    (he : h.text.toList ++ c = h'.text.toList ++ d) : h.text = h'.text ∧ c = d := by
  rcases w.plain_or_enclosed with plain | ⟨inner, enclosed, hinner⟩ <;>
    rcases w'.plain_or_enclosed with plain' | ⟨inner', enclosed', hinner'⟩
  · obtain ⟨htext, rest⟩ :=
      (plain.mono (by decide)).append_inj (plain'.mono (by decide)) hc hd he
    exact ⟨String.toList_inj.mp htext, rest⟩
  · rw [enclosed'] at he
    exact absurd he (append_ne_enclosed plain hc)
  · rw [enclosed] at he
    exact absurd he.symm (append_ne_enclosed plain' hd)
  · rw [enclosed, enclosed', List.cons_append, List.cons_append, List.append_assoc,
      List.append_assoc] at he
    obtain ⟨rfl, rest⟩ := hinner.append_inj hinner' (by simp) (by simp) (List.cons.inj he).2
    exact ⟨String.toList_inj.mp (enclosed.trans enclosed'.symm), (List.cons.inj rest).2⟩

theorem ne_text_ipv6 {s : String} (hs : Avoids s.toList nameMarks) (pieces : List Nat) :
    s ≠ (Host.ipv6 pieces).text := by
  intro h
  have bracket : '[' ∈ s.toList := by
    rw [h, toList_text_ipv6]
    exact List.mem_cons_self ..
  exact hs '[' bracket (by decide)

theorem ne_ipv4Text {s : String} (w : (Host.name s).WellFormed true) (address : Nat) :
    s ≠ ipv4Text address := by
  intro h
  cases (w.2 rfl).symm.trans (h ▸ endsInNumber_ipv4Text address)

/-- **Hosts of one kind of scheme have different texts.** -/
theorem text_injective (w : h.WellFormed special) (w' : h'.WellFormed special)
    (he : h.text = h'.text) : h = h' := by
  cases h with
  | name s =>
      cases h' with
      | name s' => exact congrArg Host.name he
      | ipv4 b =>
          obtain rfl := w'.1
          exact absurd he (ne_ipv4Text w b)
      | ipv6 b => exact absurd he (ne_text_ipv6 w.1 b)
  | ipv4 a =>
      cases h' with
      | name s' =>
          obtain rfl := w.1
          exact absurd he.symm (ne_ipv4Text w' a)
      | ipv4 b => exact congrArg Host.ipv4 (ipv4Text_injective w.2 w'.2 he)
      | ipv6 b => exact absurd he (ne_text_ipv6 (avoids_ipv4Text a) b)
  | ipv6 a =>
      cases h' with
      | name s' => exact absurd he.symm (ne_text_ipv6 w'.1 a)
      | ipv4 b => exact absurd he.symm (ne_text_ipv6 (avoids_ipv4Text b) a)
      | ipv6 b =>
          have texts := congrArg String.toList he
          rw [toList_text_ipv6, toList_text_ipv6] at texts
          have inner := List.append_cancel_right (List.cons.inj texts).2
          exact congrArg Host.ipv6 (ipv6Text_injective w w' (String.toList_inj.mp inner))

end Dossier.Host
