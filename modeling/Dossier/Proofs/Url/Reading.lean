import Mathlib.Data.List.TakeDrop
import Dossier.Url.Parse
import Dossier.Proofs.Url.Path

/-!
# Url — what is read is well-formed

Each reader cuts a text at a mark, and encodes or refuses the marks that are left in its part.  So
the URL of a text is well-formed, if the base it is read against is.

* `Host.wellFormed_of_domain`, `Host.wellFormed_of_name`: the hosts that are read.
* `Url.wellFormed_of_authority`: the authorities that are read.
* `Url.wellFormed_of_parse`: the URLs that are read.
-/

namespace Dossier

/-- A computation that succeeds succeeds in its first step. -/
theorem exists_of_bind_eq_ok {ε α β : Type} {first : Except ε α} {next : α → Except ε β} {b : β}
    (h : first >>= next = .ok b) : ∃ a, first = .ok a ∧ next a = .ok b := by
  cases first with
  | error e => cases h
  | ok a => exact ⟨a, rfl, h⟩

/-! ### Hosts -/

namespace Host

/-- A number whose first digits are there grows by the digits to come. -/
theorem foldl_bytes_lt {bytes : List Nat} (h : ∀ b ∈ bytes, b < 256) (n : Nat) :
    bytes.foldl (fun n b => n * 256 + b) n < (n + 1) * 256 ^ bytes.length := by
  induction bytes generalizing n with
  | nil => simp
  | cons b rest ih =>
      have later := ih (fun c hc => h c (List.mem_cons_of_mem _ hc)) (n * 256 + b)
      have first : n * 256 + b + 1 ≤ (n + 1) * 256 := by
        have := h b (List.mem_cons_self ..)
        omega
      calc (b :: rest).foldl (fun n b => n * 256 + b) n
        _ < (n * 256 + b + 1) * 256 ^ rest.length := later
        _ ≤ (n + 1) * 256 * 256 ^ rest.length := Nat.mul_le_mul_right _ first
        _ = (n + 1) * 256 ^ (b :: rest).length := by rw [List.length_cons, Nat.pow_succ']; ac_rfl

theorem foldl_zeros (k n : Nat) :
    (List.replicate k 0).foldl (fun n b => n * 256 + b) n = n * 256 ^ k := by
  induction k generalizing n with
  | zero => simp
  | succ k ih => rw [List.replicate_succ, List.foldl_cons, ih, Nat.add_zero, Nat.pow_succ']; ac_rfl

/-- An IPv4 address that is read has four bytes. -/
theorem lt_of_ipv4? {cs : List Char} {address : Nat} (h : ipv4? cs = some address) :
    address < 256 ^ 4 := by
  simp only [ipv4?, Option.bind_eq_bind, Option.bind_eq_some_iff] at h
  obtain ⟨parts, -, last, -, h⟩ := h
  split at h
  · cases h
  · next bounds =>
    cases h
    simp only [not_or, Nat.not_lt, Nat.not_le, Bool.not_eq_true, List.any_eq_false,
      decide_eq_true_eq] at bounds
    obtain ⟨short, bytes, filled⟩ := bounds
    generalize parts.dropLast = front at *
    have small : ∀ b ∈ front, b < 256 := fun b hb => Nat.lt_succ_of_le (bytes b hb)
    have value := foldl_bytes_lt small 0
    rw [Nat.zero_add, Nat.one_mul] at value
    rw [List.foldl_append, foldl_zeros]
    generalize front.foldl (fun n b => n * 256 + b) 0 = n at *
    calc n * 256 ^ (4 - front.length) + last
      _ < n * 256 ^ (4 - front.length) + 256 ^ (4 - front.length) := Nat.add_lt_add_left filled _
      _ = (n + 1) * 256 ^ (4 - front.length) := (Nat.succ_mul ..).symm
      _ ≤ 256 ^ front.length * 256 ^ (4 - front.length) := Nat.mul_le_mul_right _ value
      _ = 256 ^ 4 := by rw [← Nat.pow_add, Nat.add_sub_cancel' (by omega)]

theorem length_of_ipv6? {cs : List Char} {pieces : List Nat} (h : ipv6? cs = some pieces) :
    pieces.length = 8 := by
  unfold ipv6? at h
  split at h
  · simp only [Option.bind_eq_bind, Option.bind_eq_some_iff] at h
    obtain ⟨front, -, back, -, h⟩ := h
    split at h
    · cases h
      simp only [List.length_append, List.length_replicate]
      omega
    · cases h
  · simp only [Option.bind_eq_bind, Option.bind_eq_some_iff] at h
    obtain ⟨found, -, h⟩ := h
    split at h
    · cases h
      assumption
    · cases h

variable {special : Bool} {cs : List Char} {h : Host}

theorem wellFormed_of_bracketed (hr : bracketed cs = .ok h) : h.WellFormed special := by
  unfold bracketed at hr
  split at hr
  · next pieces _ hp =>
    cases hr
    exact length_of_ipv6? hp
  · cases hr

/-- The host of a special scheme holds no mark, and is a number only as an address. -/
theorem wellFormed_of_domain (hr : ofDomain cs = .ok h) : h.WellFormed true := by
  have forbidden : ∀ m ∈ nameMarks, isForbidden m = true := by
    simp [nameMarks, isForbidden, String.contains_char_eq]
  unfold ofDomain at hr
  split at hr
  · exact wellFormed_of_bracketed hr
  · dsimp only at hr
    generalize (Percent.decode cs).map (fun b => (Char.ofNat b.toNat).toLower) = decoded at hr
    split at hr
    · cases hr
    · next allowed =>
      split at hr
      · cases hr
      · split at hr
        · split at hr
          · next address ha =>
            cases hr
            exact ⟨rfl, lt_of_ipv4? ha⟩
          · cases hr
        · next unnumbered =>
          cases hr
          simp only [WellFormed, String.toList_ofList]
          refine ⟨fun c hc hm => allowed ?_, fun _ => Bool.eq_false_iff.mpr unnumbered⟩
          exact List.any_eq_true.mpr ⟨c, hc, forbidden c hm⟩

theorem wellFormed_of_name (hr : ofName cs = .ok h) : h.WellFormed false := by
  have forbidden : ∀ m ∈ nameMarks, isForbiddenInName m = true := by
    simp [nameMarks, isForbiddenInName, String.contains_char_eq]
  unfold ofName at hr
  split at hr
  · exact wellFormed_of_bracketed hr
  · split at hr
    · cases hr
    · next allowed =>
      cases hr
      simp only [WellFormed, String.toList_ofList]
      refine ⟨Percent.avoids_encode (fun m hm => .inr fun hc => allowed ?_) (by decide),
        fun hs => nomatch hs⟩
      exact List.any_eq_true.mpr ⟨m, hc, forbidden m hm⟩

end Host

namespace Url

variable {scheme : String} {cs : List Char} {r : Reference} {u b : Url} {a : Authority}

/-! ### Parts -/

theorem toLower_ne_colon {c : Char} (h : c ≠ ':') : c.toLower ≠ ':' := by
  intro hl
  unfold Char.toLower at hl
  split at hl
  · next upper =>
    -- a capital letter becomes a letter
    have value : c.val + 32 = 58 := congrArg Char.val hl
    have low : 65 ≤ c.val := upper.1
    have high : c.val ≤ 90 := upper.2
    have number := congrArg UInt32.toNat value
    rw [UInt32.le_iff_toNat_le] at low high
    rw [UInt32.toNat_add] at number
    simp only [UInt32.reduceToNat] at low high number
    omega
  · exact h hl

/-- A scheme is what stands before the first colon, in lower case. -/
theorem exists_of_scheme? {rest : List Char} (h : scheme? cs = some (scheme, rest)) :
    ∃ name, cs = name ++ ':' :: rest ∧ ':' ∉ name
      ∧ scheme.toList = (UrlPath.withoutBreaks name).map Char.toLower := by
  unfold scheme? at h
  dsimp only at h
  rw [List.span_eq_takeWhile_dropWhile] at h
  split at h
  · next name after hspan =>
    split at h
    · obtain ⟨rfl, hrest⟩ := Prod.mk.inj hspan
      cases h
      refine ⟨_, ?_, fun hm => ?_, String.toList_ofList⟩
      · rw [← hrest, List.takeWhile_append_dropWhile]
      · cases List.all_eq_true.mp List.all_takeWhile ':' hm
    · cases h
  · cases h

theorem avoids_of_scheme? {rest : List Char} (h : scheme? cs = some (scheme, rest)) :
    Avoids scheme.toList [':'] := by
  obtain ⟨name, -, free, hname⟩ := exists_of_scheme? h
  rw [hname]
  intro d hd hm
  obtain ⟨c, hc, rfl⟩ := List.mem_map.mp hd
  have ne_colon : c ≠ ':' := fun he => free (he ▸ (List.mem_filter.mp hc).1)
  exact toLower_ne_colon ne_colon (List.mem_singleton.mp hm)

theorem subset_of_scheme? {rest : List Char} (h : scheme? cs = some (scheme, rest)) :
    rest ⊆ cs := by
  obtain ⟨name, rfl, -⟩ := exists_of_scheme? h
  exact fun c hc => List.mem_append_right _ (List.mem_cons_of_mem _ hc)

/-- The main part ends at the query, and the query at the fragment. -/
theorem avoids_main (text : String) : Avoids (Reference.ofText text).main ['?', '#'] := by
  have cut {mark : Char} {cs : List Char} : mark ∉ (cutAt mark cs).1 := fun hm =>
    of_decide_eq_true (List.all_eq_true.mp List.all_takeWhile mark hm) rfl
  intro c hc hm
  rcases List.mem_cons.mp hm with rfl | hm
  · exact cut hc
  · obtain rfl := List.mem_singleton.mp hm
    exact cut ((List.takeWhile_prefix _).subset hc)

theorem avoids_writtenUserInfo (cs : List Char) :
    Avoids (writtenUserInfo cs).toList (':' :: Host.outerMarks) := by
  rw [writtenUserInfo, String.toList_ofList]
  have encoded : (':' :: Host.outerMarks).all Percent.inUserInfo = true := by decide
  exact Percent.avoids_encode (fun m hm => .inl (List.all_eq_true.mp encoded m hm)) (by decide)

theorem avoids_writtenQuery (query : Option (List Char)) :
    ∀ q, writtenQuery scheme query = some q → Avoids q.toList ['#'] := by
  intro q hq
  obtain ⟨cs, -, rfl⟩ := Option.map_eq_some_iff.mp hq
  rw [String.toList_ofList]
  refine Percent.avoids_encode (fun m hm => .inl ?_) (by decide)
  obtain rfl := List.mem_singleton.mp hm
  split <;> rfl

/-! ### Authorities -/

theorem wellFormed_of_userInfo {special : Bool} (cs : List Char) {host : Host}
    (w : host.WellFormed special) (number : Option Nat) :
    Authority.WellFormed special ⟨(userInfo cs).1, (userInfo cs).2, host, number⟩ where
  username := avoids_writtenUserInfo _
  password p hp := by
    dsimp only [userInfo] at hp
    split at hp
    · cases hp
    · cases hp
    · cases hp
      exact (avoids_writtenUserInfo _).mono (List.subset_cons_self ..)
  host := w

/-- Who and what is named between the double slash and the path. -/
theorem wellFormed_of_authority {followed : Bool} {rest : List Char}
    (h : readAuthority scheme followed cs = .ok (a, rest)) :
    a.WellFormed (SchemeKind.ofScheme scheme).isSpecial := by
  unfold readAuthority at h
  dsimp only at h
  split at h
  · cases h
  · split at h
    · next special =>
      obtain ⟨host, hhost, h⟩ := exists_of_bind_eq_ok h
      obtain ⟨⟨number, after⟩, -, h⟩ := exists_of_bind_eq_ok h
      cases h
      exact wellFormed_of_userInfo _ (special ▸ Host.wellFormed_of_domain hhost) _
    · next special =>
      obtain ⟨host, hhost, h⟩ := exists_of_bind_eq_ok h
      obtain ⟨⟨number, after⟩, -, h⟩ := exists_of_bind_eq_ok h
      cases h
      rw [Bool.not_eq_true] at special
      exact wellFormed_of_userInfo _ (special ▸ Host.wellFormed_of_name hhost) _

/-! ### URLs -/

theorem WellFormed.isSegment (w : u.WellFormed) :
    ∀ s ∈ segmentsOf u.path, UrlPath.IsSegment (SchemeKind.ofScheme u.scheme) s := by
  have path := w.path
  cases hp : u.path with
  | flat text => exact List.forall_mem_nil _
  | listed segments =>
      rw [hp] at path
      exact path

/-- Another query and fragment leave a URL well-formed. -/
theorem WellFormed.withEnd (w : u.WellFormed) {query : Option String}
    (hq : ∀ q, query = some q → Avoids q.toList ['#']) (fragment : Option String) :
    { u with query, fragment }.WellFormed :=
  ⟨w.scheme, w.authority, w.bare, w.path, hq⟩

/-- A text that has no query of its own takes that of the base. -/
theorem WellFormed.avoids_query (w : b.WellFormed) (r : Reference) :
    ∀ q, (if r.query.isSome then writtenQuery scheme r.query else b.query) = some q →
      Avoids q.toList ['#'] := by
  split
  · exact avoids_writtenQuery r.query
  · exact w.query

theorem wellFormed_assemble {authority : Option Authority} {segments : List String}
    (hs : Avoids scheme.toList [':'])
    (ha : ∀ a, authority = some a → a.WellFormed (SchemeKind.ofScheme scheme).isSpecial)
    (hn : authority = none → SchemeKind.ofScheme scheme = .other ∧ segments ≠ [])
    (hp : ∀ s ∈ segments, UrlPath.IsSegment (SchemeKind.ofScheme scheme) s) (r : Reference) :
    (assemble scheme authority segments r).WellFormed where
  scheme := hs
  authority a h := ⟨ha a h, segments, rfl⟩
  bare h := ⟨(hn h).1, fun he => (hn h).2 (UrlPath.listed.inj he)⟩
  path := hp
  query := avoids_writtenQuery r.query

theorem wellFormed_ofAuthority (hs : Avoids scheme.toList [':'])
    (h : ofAuthority scheme cs r = .ok u) : u.WellFormed := by
  unfold ofAuthority at h
  dsimp only at h
  obtain ⟨⟨a, rest⟩, ha, h⟩ := exists_of_bind_eq_ok h
  cases h
  refine wellFormed_assemble hs ?_ (fun hn => absurd hn (Option.some_ne_none _)) ?_ r
  · intro b hb
    cases hb
    exact wellFormed_of_authority ha
  · split
    · exact UrlPath.isSegment_extend_nil _
    · split
      · exact List.forall_mem_nil _
      · exact UrlPath.isSegment_extend_nil _

/-- Other segments behind the authority of the base. -/
theorem WellFormed.withSegments (w : b.WellFormed) {segments : List String}
    (hn : SchemeKind.ofScheme b.scheme = .other → segments ≠ [])
    (hp : ∀ s ∈ segments, UrlPath.IsSegment (SchemeKind.ofScheme b.scheme) s) (r : Reference) :
    (assemble b.scheme b.authority segments r).WellFormed :=
  wellFormed_assemble w.scheme (fun a ha => (w.authority a ha).1)
    (fun hb => ⟨(w.bare hb).1, hn (w.bare hb).1⟩) hp r

/-- A text that is followed on top of segments of the base. -/
theorem WellFormed.extend (w : b.WellFormed) {folder : List String}
    (hf : folder ⊆ segmentsOf b.path) (cs : List Char) (r : Reference) :
    (assemble b.scheme b.authority
      (UrlPath.extend (SchemeKind.ofScheme b.scheme) folder cs) r).WellFormed :=
  w.withSegments (fun other => other ▸ UrlPath.extend_other_ne_nil _ _)
    (UrlPath.isSegment_extend (fun s hs => w.isSegment s (hf hs)) cs) r

theorem wellFormed_ofRelative (w : b.WellFormed) (h : ofRelative b cs r = .ok u) :
    u.WellFormed := by
  unfold ofRelative at h
  dsimp only at h
  split at h
  · cases h
    exact w.withEnd (w.avoids_query r) _
  · split at h
    · exact wellFormed_ofAuthority w.scheme h
    · split at h
      · cases h
        exact w.extend (List.dropLast_subset _) cs r
      · cases h
        exact w.extend (List.nil_subset _) cs.tail r

/-! ### Files -/

theorem ofScheme_file : SchemeKind.ofScheme "file" = .file := by decide

theorem wellFormed_fileAuthority {host : Host} (w : host.WellFormed true) :
    (fileAuthority host).WellFormed true where
  username := .nil _
  password _ hp := nomatch hp
  host := w

theorem wellFormed_thisMachine : (Host.name "").WellFormed true :=
  ⟨.nil _, fun _ => by decide⟩

theorem wellFormed_of_fileHost {host : Host} (h : fileHost cs = .ok host) :
    host.WellFormed true := by
  unfold fileHost at h
  split at h
  · cases h
    exact wellFormed_thisMachine
  · cases hd : Host.ofDomain cs with
    | error e =>
        rw [hd] at h
        cases h
    | ok found =>
        rw [hd] at h
        cases h
        dsimp only
        split
        · exact wellFormed_thisMachine
        · exact Host.wellFormed_of_domain hd

/-- A file on a host. -/
theorem wellFormed_file {host : Host} (w : host.WellFormed true) {segments : List String}
    (hp : ∀ s ∈ segments, UrlPath.IsSegment .file s) (r : Reference) :
    (assemble "file" (some (fileAuthority host)) segments r).WellFormed := by
  refine wellFormed_assemble (by decide) ?_ (fun hn => absurd hn (Option.some_ne_none _)) ?_ r
  · intro a ha
    cases ha
    exact wellFormed_fileAuthority w
  · exact hp

theorem wellFormed_ofFileHost (h : ofFileHost cs r = .ok u) : u.WellFormed := by
  unfold ofFileHost at h
  dsimp only at h
  split at h
  · cases h
    exact wellFormed_file wellFormed_thisMachine
      (UrlPath.isSegment_extend_nil _) r
  · obtain ⟨host, hhost, h⟩ := exists_of_bind_eq_ok h
    cases h
    have front : ∀ s ∈ (if host = .name "" then [""] else []), UrlPath.IsSegment .file s := by
      split
      · exact fun s hs => List.mem_singleton.mp hs ▸ UrlPath.isSegment_empty
      · exact List.forall_mem_nil _
    have place {onDrive : Prop} [Decidable onDrive] :
        (if onDrive then .name "" else host : Host).WellFormed true := by
      split
      · exact wellFormed_thisMachine
      · exact wellFormed_of_fileHost hhost
    exact wellFormed_file place (UrlPath.clean_follow front _).path r

variable {base : Option Url}

theorem WellFormed.isSegment_file (w : b.WellFormed) (hs : b.scheme = "file") :
    ∀ s ∈ segmentsOf b.path, UrlPath.IsSegment .file s := by
  have segments := w.isSegment
  rwa [hs, ofScheme_file] at segments

/-- Other segments on the machine of the base. -/
theorem WellFormed.withFileSegments (w : b.WellFormed) (hs : b.scheme = "file")
    {segments : List String} (hp : ∀ s ∈ segments, UrlPath.IsSegment .file s) (r : Reference) :
    (assemble "file" b.authority segments r).WellFormed := by
  have kind : SchemeKind.ofScheme b.scheme = .file := by rw [hs, ofScheme_file]
  have placed := w.withSegments (fun other => nomatch kind.symm.trans other) (kind ▸ hp) r
  rwa [hs] at placed

theorem wellFormed_ofFileRoot (hb : ∀ b, base = some b → b.WellFormed ∧ b.scheme = "file")
    (cs : List Char) (r : Reference) : (ofFileRoot base cs r).WellFormed := by
  have onThis {folder : List String} (hf : ∀ s ∈ folder, UrlPath.IsSegment .file s) :=
    wellFormed_file wellFormed_thisMachine (UrlPath.isSegment_extend hf cs) r
  unfold ofFileRoot
  split
  · exact onThis (List.forall_mem_nil _)
  · next b =>
    obtain ⟨w, hs⟩ := hb b rfl
    dsimp only
    split
    · exact onThis (List.forall_mem_nil _)
    · split
      · exact onThis fun s hm => w.isSegment_file hs s (List.take_subset 1 _ hm)
      · exact w.withFileSegments hs (UrlPath.isSegment_extend_nil cs) r

theorem wellFormed_ofFileRelative (hb : ∀ b, base = some b → b.WellFormed ∧ b.scheme = "file")
    (cs : List Char) (r : Reference) : (ofFileRelative base cs r).WellFormed := by
  have alone :=
    wellFormed_file wellFormed_thisMachine (UrlPath.isSegment_extend_nil cs) r
  unfold ofFileRelative
  split
  · exact alone
  · next b =>
    obtain ⟨w, hs⟩ := hb b rfl
    split
    · exact w.withEnd (w.avoids_query r) _
    · split
      · exact alone
      · exact w.withFileSegments hs (UrlPath.isSegment_extendFile (w.isSegment_file hs) cs) r

theorem wellFormed_ofFile (hb : ∀ b, base = some b → b.WellFormed ∧ b.scheme = "file")
    (h : ofFile base cs r = .ok u) : u.WellFormed := by
  unfold ofFile at h
  split at h
  · cases h
    exact wellFormed_ofFileRelative hb cs r
  · split at h
    · cases h
      exact wellFormed_ofFileRoot hb _ r
    · exact wellFormed_ofFileHost h

/-! ### Reading -/

theorem wellFormed_ofAbsolute (hb : ∀ b, base = some b → b.WellFormed)
    (hs : Avoids scheme.toList [':']) (hcs : Avoids cs ['?', '#'])
    (h : ofAbsolute base scheme cs r = .ok u) : u.WellFormed := by
  unfold ofAbsolute at h
  split at h
  · dsimp only at h
    split at h
    · next b =>
      split at h
      · exact wellFormed_ofRelative (hb b rfl) h
      · exact wellFormed_ofAuthority hs h
    · exact wellFormed_ofAuthority hs h
  · next common =>
    have other : SchemeKind.ofScheme scheme = .other := by
      cases hk : SchemeKind.ofScheme scheme with
      | other => rfl
      | _ => exact absurd (hk ▸ rfl) common
    split at h
    · exact wellFormed_ofAuthority hs h
    · next rest _ =>
      cases h
      refine wellFormed_assemble hs (fun _ ha => by cases ha)
        (fun _ => ⟨other, UrlPath.extend_other_ne_nil _ _⟩) ?_ r
      rw [other]
      exact UrlPath.isSegment_extend_nil rest
    · next slashes slash =>
      cases h
      exact {
        scheme := hs
        authority := fun _ ha => nomatch ha
        bare := fun _ => ⟨other, fun he => by cases he⟩
        path := by
          refine ⟨?_, ?_⟩
          · rw [String.toList_ofList]
            exact Percent.avoids_encode (fun m hm => .inr fun hc => hcs m hc hm) (by decide)
          · rw [String.toList_ofList]
            refine Percent.head?_encode_ne (by decide) fun hh => ?_
            obtain ⟨rest, hrest⟩ := List.head?_eq_some_iff.mp hh
            exact slash rest hrest
        query := avoids_writtenQuery r.query }

/-- **What is read is well-formed**, if the base is. -/
theorem wellFormed_of_parse {text : String} (hb : ∀ b, base = some b → b.WellFormed)
    (h : parse base text = .ok u) : u.WellFormed := by
  unfold parse at h
  dsimp only at h
  split at h
  · next base _ _ scheme rest hscheme =>
    have same : ∀ b, (base.filter fun b => b.scheme = scheme) = some b →
        b.WellFormed ∧ b.scheme = scheme := by
      intro b hf
      obtain ⟨rfl, hs⟩ := Option.filter_eq_some_iff.mp hf
      exact ⟨hb b rfl, of_decide_eq_true hs⟩
    split at h
    · next hfile =>
      subst hfile
      exact wellFormed_ofFile same h
    · refine wellFormed_ofAbsolute (fun b hf => (same b hf).1) (avoids_of_scheme? hscheme) ?_ h
      have main := avoids_main text
      exact main.of_subset fun c hc => subset_of_scheme? hscheme (List.mem_filter.mp hc).1
  · cases h
  · next b _ =>
    have w := hb b rfl
    split at h
    · cases h
      exact w.withEnd w.query _
    · split at h
      · cases h
      · split at h
        · next hfile =>
          refine wellFormed_ofFile (fun c hc => ?_) h
          cases hc
          exact ⟨w, hfile⟩
        · exact wellFormed_ofRelative w h

end Url

end Dossier
