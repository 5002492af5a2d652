import Mathlib.Data.List.Forall2
import Dossier.Chain.Pool
import Dossier.Proofs.Fields

/-!
# Chain — records filed by name

Values are filed into a pool one after the other.  A record that has a name is put under it, in the
place of an earlier one; at the first value without a name the filing stops.  So of records of one
name the first says where the name stands in the pool, and the last what stands under it.

* `Pool.Filed`: a pool holds the given values, filed.  There is one such pool
  (`Pool.Filed.unique`), and each of its records stands under its own name
  (`Pool.Filed.bears_of_mem`).
* `Pool.Filed.insert`: one more record that has a name is filed by putting it under that name.
* `Pool.filing_insertAll`: so by induction on the values yet to come, they end up filed with those
  before them, or the first one without a name is reported.
* `Pool.ofRecords_filed`: what becomes of a list of values.
-/

namespace Dossier

/-! ### Names of values -/

namespace Layout

variable {l : Layout} {values : List Json} {record found : Fields Json} {name other : String}

/-- The value is an object with the text in its name field. -/
def Bears (l : Layout) (v : Json) (name : String) : Prop :=
  ∃ record, v = .obj record ∧ Fields.find? record l.name = some (.str name)

/-- The value is an object with a string in its name field. -/
def Named (l : Layout) (v : Json) : Prop := ∃ name, l.Bears v name

/-- The value at the position is the first one without a name. -/
structure FirstNameless (l : Layout) (values : List Json) (position : Nat) : Prop where
  nameless : ∃ v, values[position]? = some v ∧ ¬ l.Named v
  before : ∀ i < position, ∀ v, values[i]? = some v → l.Named v

/-- The record is the last one of the name among the values. -/
def Last (l : Layout) (values : List Json) (name : String) (record : Fields Json) : Prop :=
  ∃ front back, values = front ++ .obj record :: back ∧ l.Bears (.obj record) name
    ∧ ∀ v ∈ back, ¬ l.Bears v name

theorem nameOf?_eq_some_iff : l.nameOf? record = some name ↔ l.Bears (.obj record) name := by
  constructor
  · intro h
    obtain ⟨v, found, text⟩ := Option.bind_eq_some_iff.mp h
    cases v with
    | str s =>
        cases text
        exact ⟨record, rfl, found⟩
    | _ => cases text
  · rintro ⟨_, ⟨⟩, found⟩
    rw [nameOf?, found]
    rfl

theorem Bears.unique {v : Json} (h : l.Bears v name) (h' : l.Bears v other) : name = other := by
  obtain ⟨_, rfl, found⟩ := h
  obtain ⟨_, ⟨⟩, found'⟩ := h'
  cases found.symm.trans found'
  rfl

theorem named_of_forall₂ {names : List String} (h : List.Forall₂ l.Bears values names) :
    ∀ v ∈ values, l.Named v := by
  induction h with
  | nil => exact fun v hv => nomatch hv
  | cons bears _ ih => exact List.forall_mem_cons.mpr ⟨⟨_, bears⟩, ih⟩

theorem FirstNameless.unique {i j : Nat} (h : l.FirstNameless values i)
    (h' : l.FirstNameless values j) : i = j := by
  obtain ⟨v, hv, nameless⟩ := h.nameless
  obtain ⟨w, hw, nameless'⟩ := h'.nameless
  rcases Nat.lt_trichotomy i j with lt | rfl | lt
  · exact absurd (h'.before i lt v hv) nameless
  · rfl
  · exact absurd (h.before j lt w hw) nameless'

theorem FirstNameless.not_all_named {position : Nat} (h : l.FirstNameless values position) :
    ¬ ∀ v ∈ values, l.Named v := by
  obtain ⟨v, hv, nameless⟩ := h.nameless
  exact fun named => nameless (named v (List.mem_of_getElem? hv))

theorem not_last_nil : ¬ l.Last [] name record := by
  rintro ⟨front, back, split, -⟩
  simp at split

/-- A record put behind the others is the last one of its name, and no other name's. -/
theorem last_concat (h : l.Bears (.obj record) name) :
    l.Last (values ++ [.obj record]) other found
      ↔ name = other ∧ found = record ∨ name ≠ other ∧ l.Last values other found := by
  constructor
  · rintro ⟨front, back, split, bears, later⟩
    rcases List.eq_nil_or_concat' back with rfl | ⟨inner, v, rfl⟩
    · cases (List.append_inj' split rfl).2
      exact .inl ⟨h.unique bears, rfl⟩
    · rw [← List.cons_append, ← List.append_assoc] at split
      obtain ⟨rfl, last⟩ := List.append_inj' split rfl
      cases last
      have newer : ¬ l.Bears (.obj record) other :=
        later _ (List.mem_append_right _ (List.mem_singleton_self _))
      exact .inr ⟨fun same => newer (same ▸ h), front, inner, rfl, bears,
        fun u hu => later u (List.mem_append_left _ hu)⟩
  · rintro (⟨rfl, rfl⟩ | ⟨hne, front, back, rfl, bears, later⟩)
    · exact ⟨values, [], rfl, h, nofun⟩
    · refine ⟨front, back ++ [.obj record], by simp, bears, fun v hv => ?_⟩
      rcases List.mem_append.mp hv with hv | hv
      · exact later v hv
      · obtain rfl := List.mem_singleton.mp hv
        exact fun bears => hne (h.unique bears)

end Layout

/-! ### Filed values -/

namespace Pool

variable {l : Layout} {values seen : List Json} {pool : Pool} {record : Fields Json}
  {name : String}

/-- Pools with the same names in one order, under which the same is read, are equal. -/
theorem eq_of_get? {p q : Pool} (hn : p.names = q.names)
    (h : ∀ name, p.get? name = q.get? name) : p = q := by
  obtain ⟨records, nodup⟩ := p
  obtain ⟨others, _⟩ := q
  obtain rfl : records = others := Fields.eq_of_find? nodup hn h
  rfl

/-- The pool holds the values, filed by their names. -/
structure Filed (l : Layout) (values : List Json) (pool : Pool) : Prop where
  /-- Each value has a name, and each name stands where it first occurs. -/
  names : ∃ names, List.Forall₂ l.Bears values names ∧ pool.names = names.eraseDups
  /-- Under a name stands the last record of that name. -/
  last : ∀ name record, pool.get? name = some record ↔ l.Last values name record

namespace Filed

theorem empty : Filed l [] empty where
  names := ⟨[], .nil, rfl⟩
  last _ _ := ⟨fun h => (nomatch h), fun h => absurd h Layout.not_last_nil⟩

theorem insert (h : Filed l values pool) (bears : l.Bears (.obj record) name) :
    Filed l (values ++ [.obj record]) (pool.insert name record) where
  names := by
    obtain ⟨names, all, inOrder⟩ := h.names
    refine ⟨names ++ [name], List.rel_append all (.cons bears .nil), ?_⟩
    have written : (pool.insert name record).names
        = if name ∈ pool.names then pool.names else pool.names ++ [name] :=
      Fields.keys_insert pool.records name record
    simp only [written, inOrder, Fields.eraseDups_concat, List.mem_eraseDups]
  last other found := by
    rw [get?_insert, Layout.last_concat bears, ← h.last]
    by_cases hn : name = other <;> simp [hn, eq_comm]

theorem named (h : Filed l values pool) : ∀ v ∈ values, l.Named v := by
  obtain ⟨names, all, -⟩ := h.names
  exact Layout.named_of_forall₂ all

/-- Each record stands under its own name. -/
theorem bears_of_mem (h : Filed l values pool) {e : String × Fields Json}
    (he : e ∈ pool.records) : l.Bears (.obj e.2) e.1 := by
  obtain ⟨front, back, -, bears, -⟩ := (h.last e.1 e.2).mp (Fields.find?_of_mem pool.nodup he)
  exact bears

theorem mem_of_get? (h : Filed l values pool) (hf : pool.get? name = some record) :
    .obj record ∈ values := by
  obtain ⟨front, back, rfl, -⟩ := (h.last name record).mp hf
  exact List.mem_append_right _ (List.mem_cons_self ..)

/-- The values say what the pool is. -/
theorem unique {p q : Pool} (hp : Filed l values p) (hq : Filed l values q) : p = q := by
  obtain ⟨names, all, inOrder⟩ := hp.names
  obtain ⟨others, all', inOrder'⟩ := hq.names
  obtain rfl : names = others :=
    List.right_unique_forall₂' (fun _ _ _ h h' => h.unique h') all all'
  refine eq_of_get? (inOrder.trans inOrder'.symm) fun name => Option.ext fun record => ?_
  exact (hp.last name record).trans (hq.last name record).symm

end Filed

/-! ### Filing -/

theorem insertAll_of_bears (bears : l.Bears (.obj record) name) (position : Nat) (pool : Pool)
    (rest : List Json) : pool.insertAll l position (.obj record :: rest)
      = (pool.insert name record).insertAll l (position + 1) rest := by
  simp only [insertAll, Layout.nameOf?_eq_some_iff.mpr bears]

theorem insertAll_of_nameless {v : Json} (nameless : ¬ l.Named v) (position : Nat) (pool : Pool)
    (rest : List Json) :
    pool.insertAll l position (v :: rest) = .error (.unnamed position l.name) := by
  cases v with
  | obj record =>
      have none : l.nameOf? record = none := Option.eq_none_iff_forall_ne_some.mpr fun name h =>
        nameless ⟨name, Layout.nameOf?_eq_some_iff.mp h⟩
      simp only [insertAll, none]
  | _ => rfl

/-- What filing values comes to. -/
inductive Filing (l : Layout) (values : List Json) : Except ResolveError Pool → Prop where
  | done {pool : Pool} (filed : Filed l values pool) : Filing l values (.ok pool)
  | stopped {position : Nat} (first : l.FirstNameless values position) :
      Filing l values (.error (.unnamed position l.name))

/-- With the values so far filed, the rest is filed after them, or the filing stops. -/
theorem filing_insertAll (h : Filed l seen pool) (rest : List Json) :
    Filing l (seen ++ rest) (pool.insertAll l seen.length rest) := by
  induction rest generalizing seen pool with
  | nil => exact .done (seen.append_nil.symm ▸ h)
  | cons v rest ih =>
      by_cases named : l.Named v
      · obtain ⟨name, record, rfl, found⟩ := named
        have bears : l.Bears (.obj record) name := ⟨record, rfl, found⟩
        have later := ih (h.insert bears)
        rw [List.append_assoc, List.singleton_append, List.length_append] at later
        rw [insertAll_of_bears bears]
        exact later
      · -- the values before this one are filed, so each of them has a name
        rw [insertAll_of_nameless named]
        refine .stopped ⟨⟨v, by simp, named⟩, fun i hi u hu => ?_⟩
        rw [List.getElem?_append_left hi] at hu
        exact h.named u (List.mem_of_getElem? hu)

theorem filing_ofRecords (l : Layout) (values : List Json) :
    Filing l values (ofRecords l values) :=
  filing_insertAll .empty values

theorem filed_of_ofRecords (h : ofRecords l values = .ok pool) : Filed l values pool := by
  have filing := filing_ofRecords l values
  rw [h] at filing
  cases filing with
  | done filed => exact filed

/-- **What becomes of a list of values.**  They make a pool when each is an object with a string in
its name field; otherwise the first one that is not is reported.  The pool has their names in the
order in which they first occur, under each name the last record of that name, and so each record
under its own name. -/
theorem ofRecords_filed (l : Layout) (values : List Json) :
    ((∃ pool, ofRecords l values = .ok pool) ↔ ∀ v ∈ values, l.Named v)
      ∧ (∀ e, ofRecords l values = .error e
          ↔ ∃ position, l.FirstNameless values position ∧ e = .unnamed position l.name)
      ∧ (∀ pool, ofRecords l values = .ok pool ↔ Filed l values pool)
      ∧ ∀ pool, ofRecords l values = .ok pool → ∀ e ∈ pool.records, l.Bears (.obj e.2) e.1 := by
  have own : ∀ pool, ofRecords l values = .ok pool →
      ∀ e ∈ pool.records, l.Bears (.obj e.2) e.1 :=
    fun _ h _ he => (filed_of_ofRecords h).bears_of_mem he
  have filing := filing_ofRecords l values
  generalize ofRecords l values = outcome at filing own ⊢
  cases filing with
  | @done made filed =>
      refine ⟨⟨fun _ => filed.named, fun _ => ⟨made, rfl⟩⟩, fun e => ⟨nofun, ?_⟩,
        fun pool => ⟨?_, fun h => congrArg _ (filed.unique h)⟩, own⟩
      · rintro ⟨position, first, -⟩
        exact absurd filed.named first.not_all_named
      · rintro ⟨⟩
        exact filed
  | @stopped position first =>
      refine ⟨⟨nofun, fun named => absurd named first.not_all_named⟩, fun e => ⟨?_, ?_⟩,
        fun pool => ⟨nofun, fun h => absurd h.named first.not_all_named⟩, own⟩
      · rintro ⟨⟩
        exact ⟨position, first, rfl⟩
      · rintro ⟨other, first', rfl⟩
        rw [first.unique first']

/-- Two records of one name, and another between them. -/
def renewed : List Json :=
  [.obj [("name", .str "Box")], .obj [("name", .str "Grid")],
    .obj [("name", .str "Box"), ("extend", .str "Grid")]]

theorem ofRecords_filed_renewed :
    (∃ pool, ofRecords .standard renewed = .ok pool ∧ pool.names = ["Box", "Grid"]
        ∧ pool.get? "Box" = some [("name", .str "Box"), ("extend", .str "Grid")])
      ∧ ofRecords .standard [.obj [("name", .str "Box")], .obj [("title", .str "Grid")], .null]
        = .error (.unnamed 1 "name") := by
  constructor
  · obtain ⟨made, -, filed, -⟩ := ofRecords_filed .standard renewed
    have bears : List.Forall₂ Layout.standard.Bears renewed ["Box", "Grid", "Box"] :=
      .cons ⟨_, rfl, rfl⟩ (.cons ⟨_, rfl, rfl⟩ (.cons ⟨_, rfl, rfl⟩ .nil))
    obtain ⟨pool, hp⟩ := made.mpr (Layout.named_of_forall₂ bears)
    obtain ⟨⟨names, all, inOrder⟩, last⟩ := (filed pool).mp hp
    obtain rfl := List.right_unique_forall₂' (fun _ _ _ h h' => h.unique h') all bears
    exact ⟨pool, hp, inOrder, (last "Box" _).mpr ⟨[_, _], [], rfl, ⟨_, rfl, rfl⟩, nofun⟩⟩
  · obtain ⟨-, refused, -⟩ := ofRecords_filed .standard
      [.obj [("name", .str "Box")], .obj [("title", .str "Grid")], .null]
    refine (refused _).mpr ⟨1, ⟨⟨_, rfl, ?_⟩, fun i hi v hv => ?_⟩, rfl⟩
    · rintro ⟨name, _, ⟨⟩, found⟩
      cases found
    · obtain rfl : i = 0 := by omega
      cases hv
      exact ⟨_, _, rfl, rfl⟩

end Pool

end Dossier
