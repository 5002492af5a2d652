import Dossier.Url.Host

/-!
# Url — texts that marks divide

The parts of a URL are put together with marks between them, and no part holds the mark that ends
it.  `Avoids cs marks` says that a text holds none of the marks.

* `append_inj_of_mark`: a text is cut at its first mark in one way only.
* `mem_encode`: what is written with percent signs holds no character that is to be encoded.
* `Host.splitWhere_eq`: cutting at every mark is the cutting of the standard library.
-/

namespace Dossier

/-- Two lists that agree are cut at the first element of a class in the same place. -/
theorem append_inj_of_mark {α : Type} {mark : α → Prop} {a b c d : List α}
    (ha : ∀ x ∈ a, ¬ mark x) (hb : ∀ x ∈ b, ¬ mark x) (hc : ∀ x ∈ c.head?, mark x)
    (hd : ∀ x ∈ d.head?, mark x) (h : a ++ c = b ++ d) : a = b ∧ c = d := by
  induction a generalizing b with
  | nil =>
      cases b with
      | nil => exact ⟨rfl, h⟩
      | cons y b =>
          rw [List.nil_append] at h
          subst h
          exact absurd (hc y rfl) (hb y (List.mem_cons_self ..))
  | cons x a ih =>
      cases b with
      | nil =>
          rw [List.nil_append] at h
          subst h
          exact absurd (hd x rfl) (ha x (List.mem_cons_self ..))
      | cons y b =>
          obtain ⟨rfl, htail⟩ := List.cons.inj h
          obtain ⟨rfl, rfl⟩ := ih (fun z hz => ha z (List.mem_cons_of_mem _ hz))
            (fun z hz => hb z (List.mem_cons_of_mem _ hz)) htail
          exact ⟨rfl, rfl⟩

/-- The text holds none of the marks. -/
def Avoids (cs marks : List Char) : Prop := ∀ c ∈ cs, c ∉ marks

instance (cs marks : List Char) : Decidable (Avoids cs marks) :=
  List.decidableBAll (· ∉ marks) cs

namespace Avoids

variable {a b marks fewer : List Char}

theorem nil (marks : List Char) : Avoids [] marks := fun _ h => nomatch h

theorem append (ha : Avoids a marks) (hb : Avoids b marks) : Avoids (a ++ b) marks := by
  intro c hc
  rcases List.mem_append.mp hc with hc | hc
  · exact ha c hc
  · exact hb c hc

theorem cons {c : Char} (hc : c ∉ marks) (h : Avoids a marks) : Avoids (c :: a) marks := by
  intro d hd
  rcases List.mem_cons.mp hd with rfl | hd
  · exact hc
  · exact h d hd

theorem of_subset (h : Avoids a marks) (hs : b ⊆ a) : Avoids b marks := fun c hc => h c (hs hc)

/-- Fewer marks are avoided all the more. -/
theorem mono (h : Avoids a marks) (hs : fewer ⊆ marks) : Avoids a fewer :=
  fun c hc hm => h c hc (hs hm)

/-- Parts that avoid the marks do so with another character between them. -/
theorem intercalate {sep : Char} (hs : sep ∉ marks) {parts : List (List Char)}
    (hp : ∀ part ∈ parts, Avoids part marks) : Avoids ([sep].intercalate parts) marks := by
  induction parts with
  | nil => exact .nil _
  | cons part rest ih =>
      have first := hp part (List.mem_cons_self ..)
      have others := ih fun other ho => hp other (List.mem_cons_of_mem _ ho)
      cases rest with
      | nil => rwa [List.intercalate_singleton]
      | cons next rest =>
          rw [List.intercalate_cons_cons]
          exact (first.append ((Avoids.nil _).cons hs)).append others

/-- Two texts that are cut at the first of some marks are cut in the same place. -/
theorem append_inj {c d : List Char} (ha : Avoids a marks) (hb : Avoids b marks)
    (hc : ∀ x ∈ c.head?, x ∈ marks) (hd : ∀ x ∈ d.head?, x ∈ marks) (h : a ++ c = b ++ d) :
    a = b ∧ c = d :=
  append_inj_of_mark ha hb hc hd h

end Avoids

/-! ### Encoded texts -/

namespace Percent

/-- The characters that encoding brings in. -/
def signs : List Char :=
  ['%', '0', '1', '2', '3', '4', '5', '6', '7', '8', '9', 'A', 'B', 'C', 'D', 'E', 'F']

theorem upperHexDigit_mem (n : Nat) : upperHexDigit n ∈ signs := by
  have h : ∀ k < 16, Char.ofNat (if k < 10 then 48 + k else 55 + k) ∈ signs := by decide
  unfold upperHexDigit
  generalize hk : n % 16 = k
  exact h k (hk ▸ Nat.mod_lt n (by decide))

theorem encodeByte_subset (b : UInt8) : encodeByte b ⊆ signs := by
  intro c hc
  simp only [encodeByte, List.mem_cons, List.not_mem_nil, or_false] at hc
  rcases hc with rfl | rfl | rfl
  · exact List.mem_cons_self ..
  · exact upperHexDigit_mem _
  · exact upperHexDigit_mem _

/-- A character of an encoded text stands for itself, or was brought in. -/
theorem mem_encode {isEncoded : Char → Bool} {cs : List Char} {c : Char}
    (h : c ∈ encode isEncoded cs) : (c ∈ cs ∧ isEncoded c = false) ∨ c ∈ signs := by
  obtain ⟨d, hd, hc⟩ := List.mem_flatMap.mp h
  cases he : isEncoded d with
  | false =>
      rw [he] at hc
      obtain rfl := List.mem_singleton.mp hc
      exact .inl ⟨hd, he⟩
  | true =>
      rw [he] at hc
      obtain ⟨b, -, hb⟩ := List.mem_flatMap.mp hc
      exact .inr (encodeByte_subset b hb)

/-- An encoded text avoids marks that are encoded, or do not occur in the first place. -/
theorem avoids_encode {isEncoded : Char → Bool} {cs marks : List Char}
    (hm : ∀ m ∈ marks, isEncoded m = true ∨ m ∉ cs) (hs : Avoids signs marks) :
    Avoids (encode isEncoded cs) marks := by
  intro c hc hmark
  rcases mem_encode hc with ⟨hcs, he⟩ | hsign
  · rcases hm c hmark with h | h
    · cases he.symm.trans h
    · exact h hcs
  · exact hs c hsign hmark

end Percent

/-! ### Cutting at every mark -/

namespace Host

theorem splitWhere_eq (separates : Char → Bool) (cs : List Char) :
    splitWhere separates cs = cs.splitOnP separates := by
  induction cs with
  | nil => rfl
  | cons c rest ih =>
      rw [splitWhere, ih, List.splitOnP_cons_eq_if_modifyHead]
      cases hs : List.splitOnP separates rest with
      | nil => exact absurd hs (List.splitOnP_ne_nil _ _)
      | cons part more => cases separates c <;> rfl

end Host

end Dossier
