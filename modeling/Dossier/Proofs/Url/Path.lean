import Dossier.Url.Path
import Dossier.Proofs.Url.Text

/-!
# Url — the segments of a path that is read

A segment is a part between slashes, with every other mark in it encoded, and it is no dot segment.
So whatever text is followed, on top of whatever segments, what is put into the path is a segment.

* `UrlPath.Trail.enter_mem`: going on to a part between slashes leaves segments only.
* `UrlPath.isSegment_extend`, `UrlPath.isSegment_extendFile`: so does following a text.
-/

namespace Dossier

/-! ### Texts that are encoded -/

namespace Percent

variable {isEncoded : Char → Bool} {c : Char} {cs : List Char}

/-- A character is written as itself, or as some signs. -/
theorem exists_encode_cons (isEncoded : Char → Bool) (c : Char) (cs : List Char) :
    ∃ first more, encode isEncoded (c :: cs) = first :: more ++ encode isEncoded cs
      ∧ (first = c ∨ first = '%') := by
  rw [encode, List.flatMap_cons, ← encode]
  split
  · obtain ⟨b, bytes, hb⟩ := List.exists_cons_of_ne_nil (String.utf8EncodeChar_ne_nil (c := c))
    rw [hb]
    exact ⟨_, _, rfl, .inr rfl⟩
  · exact ⟨c, [], rfl, .inl rfl⟩

theorem length_le_length_encode : cs.length ≤ (encode isEncoded cs).length := by
  induction cs with
  | nil => exact Nat.le_refl _
  | cons c rest ih =>
      obtain ⟨first, more, he, -⟩ := exists_encode_cons isEncoded c rest
      rw [he, List.cons_append, List.length_cons, List.length_cons, List.length_append]
      omega

/-- A text starts with another character than a given one also when it is written. -/
theorem head?_encode_ne (hc : c ≠ '%') (h : cs.head? ≠ some c) :
    (encode isEncoded cs).head? ≠ some c := by
  cases cs with
  | nil => exact h
  | cons d rest =>
      obtain ⟨first, more, he, hfirst⟩ := exists_encode_cons isEncoded d rest
      rw [he]
      rintro hd
      obtain rfl := Option.some.inj hd
      rcases hfirst with rfl | rfl
      · exact h rfl
      · exact hc rfl

/-- A text that is written as a single character is that character. -/
theorem eq_of_encode_eq_singleton (hc : c ∉ signs) (h : encode isEncoded cs = [c]) : cs = [c] := by
  have short : cs.length ≤ [c].length := h ▸ length_le_length_encode
  have written : c ∈ encode isEncoded cs := h ▸ List.mem_singleton.mpr rfl
  have member : c ∈ cs := by
    rcases mem_encode written with hm | hm
    · exact hm.1
    · exact absurd hm hc
  match cs, short, member with
  | [d], _, member => rw [List.mem_singleton.mp member]

end Percent

theorem Host.not_mem_of_mem_splitWhere {separates : Char → Bool} {cs part : List Char}
    (h : part ∈ splitWhere separates cs) : ∀ c ∈ part, separates c = false := by
  induction cs generalizing part with
  | nil =>
      obtain rfl := List.mem_singleton.mp h
      exact fun _ hc => nomatch hc
  | cons c rest ih =>
      rw [splitWhere] at h
      split at h
      · next first more hs =>
        split at h
        · next hc =>
          rcases List.mem_cons.mp h with rfl | h
          · exact fun _ hd => nomatch hd
          · exact ih (hs ▸ h)
        · next hc =>
          rcases List.mem_cons.mp h with rfl | h
          · intro d hd
            rcases List.mem_cons.mp hd with rfl | hd
            · exact Bool.eq_false_iff.mpr hc
            · exact ih (hs ▸ List.mem_cons_self ..) d hd
          · exact ih (hs ▸ List.mem_cons_of_mem _ h)
      · next hs => exact absurd (splitWhere_eq separates rest ▸ hs) (List.splitOnP_ne_nil _ _)

namespace UrlPath

variable {kind : SchemeKind} {t : Trail} {segments : List String}

/-! ### Segments -/

theorem not_mem_withoutBreaks {c : Char} {cs : List Char} (h : c ∉ cs) : c ∉ withoutBreaks cs :=
  fun hc => h (List.mem_filter.mp hc).1

/-- What is written of a part between slashes is a segment, unless it is a dot. -/
theorem isSegment_written {text : List Char} (hs : '/' ∉ text) (hd : kind = .other → text ≠ ['.']) :
    IsSegment kind (written text) where
  avoids := by
    rw [written, String.toList_ofList]
    refine Percent.avoids_encode (fun m hm => ?_) (by decide)
    simp only [segmentMarks, List.mem_cons, List.not_mem_nil, or_false] at hm
    rcases hm with rfl | rfl | rfl
    · exact .inr hs
    · exact .inl rfl
    · exact .inl rfl
  ne_dot ho he := by
    have text := congrArg String.toList he
    rw [written, String.toList_ofList] at text
    exact hd ho (Percent.eq_of_encode_eq_singleton (by decide) text)

theorem isSegment_empty : IsSegment kind "" := ⟨by decide, fun _ => by decide⟩

theorem isSegment_drive {c : Char} (hc : c.isAlpha = true) :
    IsSegment kind (String.ofList [c, ':']) where
  avoids := by
    rw [String.toList_ofList]
    refine .cons (fun hm => ?_) (by decide)
    have marks : segmentMarks.all (! ·.isAlpha) = true := by decide
    have mark := List.all_eq_true.mp marks c hm
    rw [hc] at mark
    cases mark
  ne_dot _ he := by
    have text := congrArg String.toList he
    rw [String.toList_ofList] at text
    cases text

theorem isSegment_normalDrive {text : List Char} (h : isDrive text = true) :
    IsSegment kind (String.ofList (normalDrive text)) := by
  unfold isDrive at h
  split at h
  · exact isSegment_drive (Bool.and_eq_true_iff.mp h).1
  · cases h

/-- A part that a line break divides has a drive in front, and the rest of it behind. -/
theorem of_brokenDrive? {segment drive more : List Char}
    (h : brokenDrive? segment = some (drive, more)) :
    (∃ c : Char, c.isAlpha = true ∧ drive = [c, ':']) ∧ ∀ c ∈ more, c ∈ segment := by
  unfold brokenDrive? at h
  split at h
  · cases h
  · next c rest hc =>
    split at h
    · next mark tail ht =>
      dsimp only at h
      split at h
      · next hm =>
        cases h
        refine ⟨⟨c, hm.1, rfl⟩, fun d hd => ?_⟩
        have inRest : d ∈ rest := List.dropWhile_subset isBreak
          (ht ▸ List.mem_cons_of_mem _ (List.mem_cons_of_mem _ (List.mem_filter.mp hd).1))
        exact List.dropWhile_subset isBreak (hc ▸ List.mem_cons_of_mem _ inRest)
      · cases h
    · cases h

/-! ### Trails -/

namespace Trail

/-- All that was gone along are segments. -/
def Clean (kind : SchemeKind) (t : Trail) : Prop := ∀ s ∈ t.segments, IsSegment kind s

theorem Clean.back (h : t.Clean kind) : t.back.Clean kind := by
  unfold Trail.back
  split
  · exact h
  · next s rest hs =>
    split
    · exact h
    · exact fun u hu => h u (hs ▸ List.mem_cons_of_mem _ hu)

theorem Clean.close (h : t.Clean kind) : t.close.Clean kind := by
  intro s hs
  rcases List.mem_cons.mp hs with rfl | hs
  · exact isSegment_empty
  · exact h s hs

theorem Clean.enter {segment : List Char} (h : t.Clean kind) (hs : '/' ∉ segment)
    (hd : dots (withoutBreaks segment) ≠ 1) : (t.enter kind segment).Clean kind := by
  have text : IsSegment kind (written (withoutBreaks segment)) :=
    isSegment_written (not_mem_withoutBreaks hs) fun _ he => hd (he ▸ rfl)
  unfold Trail.enter
  dsimp only
  split
  · next hk =>
    split
    · next hdrive =>
      intro s hm
      obtain rfl := List.mem_singleton.mp hm
      exact isSegment_normalDrive hdrive
    · split
      · next drive more hb =>
        obtain ⟨⟨c, hc, rfl⟩, hmore⟩ := of_brokenDrive? hb
        have rest : IsSegment kind (written more) :=
          isSegment_written (fun hm => hs (hmore _ hm)) fun ho => by
            cases hk.1.symm.trans ho
        simp only [Clean, List.mem_cons, List.not_mem_nil, or_false, forall_eq_or_imp, forall_eq]
        exact ⟨rest, isSegment_drive hc⟩
      · intro s hm
        obtain rfl := List.mem_singleton.mp hm
        exact text
  · intro s hm
    rcases List.mem_cons.mp hm with rfl | hm
    · exact text
    · exact h s hm

/-- **Going along parts between slashes leaves segments only.** -/
theorem Clean.walk (h : t.Clean kind) {parts : List (List Char)} (hp : ∀ part ∈ parts, '/' ∉ part) :
    (t.walk kind parts).Clean kind := by
  fun_induction Trail.walk kind t parts with
  | case1 => exact h
  | case2 => exact h.close
  | case3 => exact h.back.close
  | case4 t segment single => exact h.enter (hp segment (List.mem_cons_self ..)) single
  | case5 t segment rest _ _ ih => exact ih h fun part hm => hp part (List.mem_cons_of_mem _ hm)
  | case6 t segment rest _ _ ih =>
      exact ih h.back fun part hm => hp part (List.mem_cons_of_mem _ hm)
  | case7 t segment rest _ single _ ih =>
      exact ih (h.enter (hp segment (List.mem_cons_self ..)) single)
        fun part hm => hp part (List.mem_cons_of_mem _ hm)

theorem enter_ne_nil (t : Trail) (segment : List Char) : (t.enter kind segment).segments ≠ [] := by
  unfold Trail.enter
  dsimp only
  split
  · split
    · exact List.cons_ne_nil _ _
    · split <;> exact List.cons_ne_nil _ _
  · exact List.cons_ne_nil _ _

/-- The last part leaves a segment behind. -/
theorem walk_ne_nil (t : Trail) {parts : List (List Char)} (hp : parts ≠ []) :
    (t.walk kind parts).segments ≠ [] := by
  fun_induction Trail.walk kind t parts with
  | case1 => exact absurd rfl hp
  | case2 | case3 => exact List.cons_ne_nil _ _
  | case4 => exact enter_ne_nil _ _
  | case5 _ _ _ more _ ih | case6 _ _ _ more _ ih | case7 _ _ _ more _ _ ih => exact ih more

theorem Clean.path (h : t.Clean kind) : ∀ s ∈ t.path kind, IsSegment kind s := by
  have all {s : String} (hs : s ∈ t.segments.reverse) : IsSegment kind s :=
    h s (List.mem_reverse.mp hs)
  intro s hs
  unfold Trail.path at hs
  dsimp only at hs
  split at hs
  · split at hs
    · obtain rfl := List.mem_singleton.mp hs
      exact isSegment_empty
    · exact all (List.dropWhile_subset _ hs)
  · exact all hs

end Trail

/-! ### Texts -/

variable {cs : List Char}

theorem clean_follow (h : ∀ s ∈ segments, IsSegment kind s) (cs : List Char) :
    (follow kind segments cs).Clean kind := by
  refine Trail.Clean.walk (fun s hs => h s (List.mem_reverse.mp hs)) fun part hp hm => ?_
  have slash := Host.not_mem_of_mem_splitWhere hp '/' hm
  simp [SchemeKind.isSlash] at slash

/-- **A text that is followed on top of segments leaves segments only.** -/
theorem isSegment_extend (h : ∀ s ∈ segments, IsSegment kind s) (cs : List Char) :
    ∀ s ∈ extend kind segments cs, IsSegment kind s :=
  (clean_follow h cs).path

theorem isSegment_extend_nil (cs : List Char) : ∀ s ∈ extend kind [] cs, IsSegment kind s :=
  isSegment_extend (List.forall_mem_nil _) cs

theorem isSegment_extendFile (h : ∀ s ∈ segments, IsSegment .file s) (cs : List Char) :
    ∀ s ∈ extendFile segments cs, IsSegment .file s := by
  have front : ∀ s ∈ segments.dropLast, IsSegment .file s :=
    fun s hs => h s (List.dropLast_subset _ hs)
  unfold extendFile
  split
  · exact isSegment_extend_nil cs
  · split
    · exact isSegment_extend front cs
    · split
      · exact isSegment_extend h cs
      · exact isSegment_extend front _

/-- Outside the special schemes a text that is followed leaves a segment. -/
theorem extend_other_ne_nil (segments : List String) (cs : List Char) :
    extend .other segments cs ≠ [] := by
  have parts : Host.splitWhere SchemeKind.other.isSlash cs ≠ [] :=
    Host.splitWhere_eq SchemeKind.other.isSlash cs ▸ List.splitOnP_ne_nil _ _
  intro h
  exact Trail.walk_ne_nil _ parts (List.reverse_eq_nil_iff.mp h)

end UrlPath

end Dossier
