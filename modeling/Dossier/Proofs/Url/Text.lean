import Dossier.Url.Basic
import Dossier.Proofs.Url.Host

/-!
# Url — the text of a URL tells the URL

`Url.WellFormed` says that no part of a URL holds the mark that ends it, and that without an
authority the path cannot be taken for one.  Cutting the text at the marks, from the colon behind
the scheme on, gives the parts back.

* `Authority.text_injective`, `UrlPath.text_injective`: authorities and paths have different texts.
* `Url.text_injective`: well-formed URLs have different texts.
-/

namespace Dossier

/-- A part that may be missing, behind its mark. -/
def behind (mark : Char) : Option String → List Char
  | none => []
  | some s => mark :: s.toList

theorem mem_of_mem_head?_behind {mark : Char} {part : Option String} :
    ∀ x ∈ (behind mark part).head?, x ∈ [mark] := by
  cases part with
  | none => exact fun _ hx => nomatch hx
  | some s => exact fun _ hx => List.mem_singleton.mpr (Option.some.inj hx).symm

theorem behind_injective {mark : Char} {part other : Option String}
    (h : behind mark part = behind mark other) : part = other := by
  cases part <;> cases other
  · rfl
  · cases h
  · cases h
  · exact congrArg some (String.toList_inj.mp (List.cons.inj h).2)

theorem Avoids.behind {mark : Char} {marks : List Char} {part : Option String} (hm : mark ∉ marks)
    (h : ∀ s, part = some s → Avoids s.toList marks) : Avoids (behind mark part) marks := by
  cases part with
  | none => exact .nil _
  | some s => exact (h s rfl).cons hm

/-! ### Authorities -/

namespace Authority

/-- Each part of the authority ends where it seems to end. -/
structure WellFormed (special : Bool) (a : Authority) : Prop where
  username : Avoids a.username.toList (':' :: Host.outerMarks)
  password : ∀ p, a.password = some p → Avoids p.toList Host.outerMarks
  host : a.host.WellFormed special

/-- The user name and the password. -/
def user (a : Authority) : List Char := a.username.toList ++ behind ':' a.password

/-- The host and the number behind it. -/
def service (a : Authority) : List Char :=
  a.host.text.toList ++ behind ':' (a.portNumber.map toString)

theorem toList_text (a : Authority) :
    a.text.toList = (if a.user = [] then [] else a.user ++ ['@']) ++ a.service := by
  obtain ⟨username, password, host, number⟩ := a
  cases password <;> cases number <;> simp [text, user, service, behind, apply_ite String.toList]

variable {special : Bool} {a b : Authority}

theorem WellFormed.avoids_user (w : a.WellFormed special) : Avoids a.user Host.outerMarks :=
  (w.username.mono (List.subset_cons_self ..)).append (.behind (by decide) w.password)

theorem WellFormed.avoids_service (w : a.WellFormed special) :
    Avoids a.service Host.outerMarks := by
  refine w.host.avoids.append (.behind (by decide) fun s hs => ?_)
  obtain ⟨n, -, rfl⟩ := Option.map_eq_some_iff.mp hs
  exact (Host.avoids_toString n).mono (by decide)

theorem WellFormed.avoids_text (w : a.WellFormed special) :
    Avoids a.text.toList ['/', '?', '#'] := by
  have fewer : ['/', '?', '#'] ⊆ Host.outerMarks := by decide
  rw [toList_text]
  refine .append ?_ (w.avoids_service.mono fewer)
  split
  · exact .nil _
  · exact (w.avoids_user.mono fewer).append (by decide)

theorem WellFormed.service_ne (w : a.WellFormed special) (user rest : List Char) :
    a.service ≠ user ++ ['@'] ++ rest := by
  intro h
  have sign : '@' ∈ a.service := by
    rw [h]
    simp
  exact w.avoids_service '@' sign (by decide)

/-- Whoever is named in front of the host ends at the sign. -/
theorem WellFormed.user_append_inj (w : a.WellFormed special) (w' : b.WellFormed special)
    (h : a.text = b.text) : a.user = b.user ∧ a.service = b.service := by
  have texts := congrArg String.toList h
  rw [toList_text, toList_text] at texts
  by_cases ha : a.user = [] <;> by_cases hb : b.user = []
  · rw [if_pos ha, if_pos hb] at texts
    exact ⟨ha.trans hb.symm, texts⟩
  · rw [if_pos ha, if_neg hb] at texts
    exact absurd texts (w.service_ne _ _)
  · rw [if_neg ha, if_pos hb] at texts
    exact absurd texts.symm (w'.service_ne _ _)
  · rw [if_neg ha, if_neg hb, List.append_assoc, List.append_assoc] at texts
    have fewer : ['@'] ⊆ Host.outerMarks := by decide
    obtain ⟨hu, rest⟩ := (w.avoids_user.mono fewer).append_inj (w'.avoids_user.mono fewer)
      (by simp) (by simp) texts
    exact ⟨hu, (List.cons.inj rest).2⟩

/-- **Authorities of one kind of scheme have different texts.** -/
theorem text_injective (w : a.WellFormed special) (w' : b.WellFormed special)
    (h : a.text = b.text) : a = b := by
  obtain ⟨users, services⟩ := w.user_append_inj w' h
  have fewer : [':'] ⊆ ':' :: Host.outerMarks := by decide
  obtain ⟨names, passwords⟩ := (w.username.mono fewer).append_inj (w'.username.mono fewer)
    mem_of_mem_head?_behind mem_of_mem_head?_behind users
  obtain ⟨hosts, numbers⟩ := Host.text_append_inj w.host w'.host mem_of_mem_head?_behind
    mem_of_mem_head?_behind services
  have number : a.portNumber = b.portNumber :=
    Option.map_injective (fun m n hmn => Host.toString_injective (congrArg String.toList hmn))
      (behind_injective numbers)
  obtain ⟨username, password, host, portNumber⟩ := a
  obtain rfl : username = _ := String.toList_inj.mp names
  obtain rfl : password = _ := behind_injective passwords
  obtain rfl : host = _ := Host.text_injective w.host w'.host hosts
  obtain rfl : portNumber = _ := number
  rfl

end Authority

/-! ### Paths -/

/-- What a segment does not hold. -/
def segmentMarks : List Char := ['/', '?', '#']

namespace UrlPath

/-- A segment ends at the next slash, and where the scheme is not special it is not a dot. -/
structure IsSegment (kind : SchemeKind) (segment : String) : Prop where
  avoids : Avoids segment.toList segmentMarks
  ne_dot : kind = .other → segment ≠ "."

/-- The path ends where it seems to end, and no other path starts like it. -/
def WellFormed (kind : SchemeKind) : UrlPath → Prop
  | .flat text => Avoids text.toList ['?', '#'] ∧ text.toList.head? ≠ some '/'
  | .listed segments => ∀ s ∈ segments, IsSegment kind s

theorem toList_text_cons (s : String) (segments : List String) :
    (UrlPath.listed (s :: segments)).text.toList
      = '/' :: (s.toList ++ (UrlPath.listed segments).text.toList) := by
  simp [text]

theorem head?_text_listed {segments : List String} :
    ∀ x ∈ (UrlPath.listed segments).text.toList.head?, x ∈ ['/'] := by
  cases segments with
  | nil => exact fun _ hx => nomatch hx
  | cons s rest =>
      rw [toList_text_cons]
      exact fun _ hx => List.mem_singleton.mpr (Option.some.inj hx).symm

variable {kind : SchemeKind} {p p' : UrlPath} {segments others : List String}

theorem WellFormed.avoids_text (w : p.WellFormed kind) : Avoids p.text.toList ['?', '#'] := by
  cases p with
  | flat text => exact w.1
  | listed segments =>
      induction segments with
      | nil => exact .nil _
      | cons s rest ih =>
          rw [toList_text_cons]
          have first := (w s (List.mem_cons_self ..)).avoids
          have later := ih fun t ht => w t (List.mem_cons_of_mem _ ht)
          exact ((first.mono (by decide)).append later).cons (by decide)

/-- Where the scheme is not special no path starts with a dot segment. -/
theorem WellFormed.not_dot_text (w : p.WellFormed .other) :
    ¬ ['/', '.', '/'] <+: p.text.toList := by
  rintro ⟨rest, h⟩
  cases p with
  | flat text => exact w.2 (by rw [← show _ = text.toList from h]; rfl)
  | listed segments =>
      cases segments with
      | nil => cases h
      | cons s segments =>
          rw [toList_text_cons] at h
          have first := w s (List.mem_cons_self ..)
          have parts : ['.'] ++ '/' :: rest = s.toList ++ (listed segments).text.toList :=
            (List.cons.inj h).2
          have free : Avoids ['.'] ['/'] := by decide
          obtain ⟨dot, -⟩ := free.append_inj (first.avoids.mono (by decide)) (by simp)
            head?_text_listed parts
          exact first.ne_dot rfl (String.toList_inj.mp dot.symm)

theorem listed_text_injective (w : (listed segments).WellFormed kind)
    (w' : (listed others).WellFormed kind) (h : (listed segments).text = (listed others).text) :
    segments = others := by
  induction segments generalizing others with
  | nil =>
      cases others with
      | nil => rfl
      | cons t others =>
          have texts := congrArg String.toList h
          rw [toList_text_cons] at texts
          cases texts
  | cons s segments ih =>
      have texts := congrArg String.toList h
      rw [toList_text_cons] at texts
      cases others with
      | nil => cases texts
      | cons t others =>
          rw [toList_text_cons] at texts
          have fewer : ['/'] ⊆ segmentMarks := by decide
          obtain ⟨heads, tails⟩ := ((w s (List.mem_cons_self ..)).avoids.mono fewer).append_inj
            ((w' t (List.mem_cons_self ..)).avoids.mono fewer) head?_text_listed head?_text_listed
            (List.cons.inj texts).2
          rw [String.toList_inj.mp heads, ih (fun u hu => w u (List.mem_cons_of_mem _ hu))
            (fun u hu => w' u (List.mem_cons_of_mem _ hu)) (String.toList_inj.mp tails)]

/-- A path without structure is no row of segments. -/
theorem flat_text_ne {text : String} (w : (flat text).WellFormed kind) (hn : segments ≠ []) :
    (flat text).text ≠ (listed segments).text := by
  intro h
  cases segments with
  | nil => exact hn rfl
  | cons s rest =>
      refine w.2 ?_
      rw [show text = _ from h, toList_text_cons]
      rfl

/-- **Paths of one kind of scheme have different texts**, unless one has nothing in it. -/
theorem text_injective (w : p.WellFormed kind) (w' : p'.WellFormed kind) (hp : p ≠ .listed [])
    (hp' : p' ≠ .listed []) (h : p.text = p'.text) : p = p' := by
  cases p with
  | flat text =>
      cases p' with
      | flat other => exact congrArg flat h
      | listed others => exact absurd h (flat_text_ne w fun hn => hp' (congrArg listed hn))
  | listed segments =>
      cases p' with
      | flat other => exact absurd h.symm (flat_text_ne w' fun hn => hp (congrArg listed hn))
      | listed others => exact congrArg listed (listed_text_injective w w' h)

end UrlPath

/-! ### URLs -/

namespace Url

/-- Each part of the URL ends where it seems to end, and its path takes the place of an authority
only if there is none. -/
structure WellFormed (u : Url) : Prop where
  scheme : Avoids u.scheme.toList [':']
  authority : ∀ a, u.authority = some a →
    a.WellFormed (SchemeKind.ofScheme u.scheme).isSpecial ∧ ∃ segments, u.path = .listed segments
  bare : u.authority = none → SchemeKind.ofScheme u.scheme = .other ∧ u.path ≠ .listed []
  path : u.path.WellFormed (SchemeKind.ofScheme u.scheme)
  query : ∀ q, u.query = some q → Avoids q.toList ['#']

/-- The authority and the path as they are written. -/
def hierarchy (u : Url) : List Char :=
  match u.authority with
  | some a => ['/', '/'] ++ (a.text.toList ++ u.path.text.toList)
  | none => (if ['/', '/'] <+: u.path.text.toList then ['/', '.'] else []) ++ u.path.text.toList

theorem toList_text (u : Url) :
    u.text.toList = u.scheme.toList
      ++ ':' :: (u.hierarchy ++ (behind '?' u.query ++ behind '#' u.fragment)) := by
  obtain ⟨scheme, authority, path, query, fragment⟩ := u
  cases authority <;> cases query <;> cases fragment <;>
    simp [text, hierarchy, behind, apply_ite String.toList]

variable {u v : Url}

theorem WellFormed.avoids_hierarchy (w : u.WellFormed) : Avoids u.hierarchy ['?', '#'] := by
  unfold hierarchy
  cases ha : u.authority with
  | some a =>
      have front := (w.authority a ha).1.avoids_text
      exact .append (by decide) ((front.mono (by decide)).append w.path.avoids_text)
  | none =>
      refine .append ?_ w.path.avoids_text
      split
      · decide
      · exact .nil _

theorem hierarchy_of_authority {a : Authority} (h : u.authority = some a) :
    u.hierarchy = ['/', '/'] ++ (a.text.toList ++ u.path.text.toList) := by
  rw [hierarchy, h]

theorem hierarchy_of_bare (h : u.authority = none) :
    u.hierarchy = (if ['/', '/'] <+: u.path.text.toList then ['/', '.'] else [])
      ++ u.path.text.toList := by
  rw [hierarchy, h]

/-- Without an authority nothing starts with a double slash. -/
theorem not_slashes_hierarchy (h : u.authority = none) : ¬ ['/', '/'] <+: u.hierarchy := by
  rw [hierarchy_of_bare h]
  split
  · rintro ⟨rest, hr⟩
    cases hr
  · assumption

/-- Without an authority the path follows, behind a dot segment if it starts with slashes. -/
theorem bare_path_text (w : u.WellFormed) (w' : v.WellFormed) (hu : u.authority = none)
    (hv : v.authority = none) (h : u.hierarchy = v.hierarchy) : u.path.text = v.path.text := by
  have plain {u : Url} (w : u.WellFormed) (hu : u.authority = none) (rest : List Char) :
      u.path.text.toList ≠ ['/', '.'] ++ ('/' :: rest) := by
    intro he
    exact (((w.bare hu).1 ▸ w.path).not_dot_text) ⟨rest, he.symm⟩
  rw [hierarchy_of_bare hu, hierarchy_of_bare hv] at h
  split at h <;> split at h
  · exact String.toList_inj.mp (List.append_cancel_left h)
  · next hs _ =>
    obtain ⟨rest, hr⟩ := hs
    exact absurd (h.symm.trans (by rw [← hr]; rfl)) (plain w' hv ('/' :: rest))
  · next _ hs =>
    obtain ⟨rest, hr⟩ := hs
    exact absurd (h.trans (by rw [← hr]; rfl)) (plain w hu ('/' :: rest))
  · exact String.toList_inj.mp h

/-- The authority ends at the slash of the path. -/
theorem authority_append_inj (w : u.WellFormed) (w' : v.WellFormed) (hs : u.scheme = v.scheme)
    {a b : Authority} (ha : u.authority = some a) (hb : v.authority = some b)
    (h : u.hierarchy = v.hierarchy) : a = b ∧ u.path = v.path := by
  obtain ⟨wa, segments, hp⟩ := w.authority a ha
  obtain ⟨wb, others, hq⟩ := w'.authority b hb
  rw [hierarchy_of_authority ha, hierarchy_of_authority hb, hp, hq] at h
  have fewer : ['/'] ⊆ segmentMarks := by decide
  obtain ⟨texts, paths⟩ := (wa.avoids_text.mono fewer).append_inj (wb.avoids_text.mono fewer)
    UrlPath.head?_text_listed UrlPath.head?_text_listed (List.append_cancel_left h)
  have same := UrlPath.listed_text_injective (hp ▸ w.path) (hs ▸ hq ▸ w'.path)
    (String.toList_inj.mp paths)
  exact ⟨Authority.text_injective wa (hs ▸ wb) (String.toList_inj.mp texts), by rw [hp, hq, same]⟩

theorem hierarchy_injective (w : u.WellFormed) (w' : v.WellFormed) (hs : u.scheme = v.scheme)
    (h : u.hierarchy = v.hierarchy) : u.authority = v.authority ∧ u.path = v.path := by
  cases ha : u.authority with
  | none =>
      cases hb : v.authority with
      | none =>
          obtain ⟨-, hp⟩ := w.bare ha
          obtain ⟨-, hq⟩ := w'.bare hb
          exact ⟨rfl, UrlPath.text_injective w.path (hs ▸ w'.path) hp hq
            (bare_path_text w w' ha hb h)⟩
      | some b =>
          rw [hierarchy_of_authority hb] at h
          exact absurd (h ▸ List.prefix_append ..) (not_slashes_hierarchy ha)
  | some a =>
      cases hb : v.authority with
      | none =>
          rw [hierarchy_of_authority ha] at h
          exact absurd (h ▸ List.prefix_append ..) (not_slashes_hierarchy hb)
      | some b =>
          obtain ⟨same, paths⟩ := authority_append_inj w w' hs ha hb h
          exact ⟨congrArg some same, paths⟩

/-- **Well-formed URLs have different texts.** -/
theorem text_injective (w : u.WellFormed) (w' : v.WellFormed) (h : u.text = v.text) : u = v := by
  have texts := congrArg String.toList h
  rw [toList_text, toList_text] at texts
  have tail {query fragment : Option String} :
      ∀ x ∈ (behind '?' query ++ behind '#' fragment).head?, x ∈ ['?', '#'] := by
    cases query with
    | none => exact fun x hx => List.mem_cons_of_mem _ (mem_of_mem_head?_behind x hx)
    | some q => exact fun x hx => Option.some.inj hx ▸ List.mem_cons_self ..
  -- the text is cut behind the scheme, in front of the query, and in front of the fragment
  obtain ⟨schemes, rest⟩ := w.scheme.append_inj w'.scheme (by simp) (by simp) texts
  obtain ⟨hierarchies, tails⟩ := w.avoids_hierarchy.append_inj w'.avoids_hierarchy tail tail
    (List.cons.inj rest).2
  obtain ⟨queries, fragments⟩ := (Avoids.behind (by decide) w.query).append_inj
    (Avoids.behind (by decide) w'.query) mem_of_mem_head?_behind mem_of_mem_head?_behind tails
  have scheme := String.toList_inj.mp schemes
  obtain ⟨authority, path⟩ := hierarchy_injective w w' scheme hierarchies
  have query := behind_injective queries
  have fragment := behind_injective fragments
  cases u
  cases v
  exact Url.mk.injEq .. ▸ ⟨scheme, authority, path, query, fragment⟩

end Url

end Dossier
