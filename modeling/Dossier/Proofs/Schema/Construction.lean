import Dossier.Proofs.Schema.Fallback

/-!
# Default — a run of the building

A default record is built with a stack of the names in progress.  A schema's name is pushed before its
properties are filled and popped after them; a reference is followed when its name is not on the stack,
and an entity that a variant nests is entered without a look at it.  `Default.Builds` says how a run
comes out, with the stack before and after, and with the records that were built inside the record.
It sets no bound to the depth.

* `Default.Builds.eq`: a run leaves the stack as it was, and gives the default record.
* `Default.builds_ofSchema`: there is such a run from every stack, so that building ends.
* `Default.Builds.started`: what is built inside a record is built by a run of its own, from the stack
  with the record's name.
* `building_ends`: along a path of records inside one another no name is entered through a reference
  twice, nor while an entity of that name is being built.
-/

namespace Dossier

/-- A record that was built: the name of its schema, the reference that it was entered through, if it
was, and the records that were built inside it, in order. -/
inductive Construction where
  | mk (entered : Option String) (name : String) (inner : List Construction)

namespace Construction

/-- The reference that the record was entered through. -/
def entered : Construction → Option String
  | .mk entered _ _ => entered

def name : Construction → String
  | .mk _ name _ => name

def inner : Construction → List Construction
  | .mk _ _ inner => inner

/-- The path leads from one of the records to one inside it, and so on. -/
inductive Path : List Construction → List Construction → Prop where
  | nil (built : List Construction) : Path built []
  | cons {built path : List Construction} {c : Construction} (hc : c ∈ built)
      (h : Path c.inner path) : Path built (c :: path)

end Construction

namespace Default

/-! ### Runs -/

section Runs

variable (registry : Registry)

mutual

/-- What a variant gives: the stack before, the zero, if it has one, the records that were built for
it, and the stack after. -/
inductive Gives : List String → Variant → Option Json → List Construction → List String → Prop where
  | plain {stack : List String} {w : Variant} (plain : w.nests = false) :
      Gives stack w (ofVariant (fun _ _ => none) [] w) [] stack
  | entity {stack stack' : List String} {s : Schema} {fields : Fields Json}
      {inner : List Construction} (h : Builds stack s fields inner stack') :
      Gives stack (.entity s) (some (.obj fields)) [.mk none s.name inner] stack'
  | unknown {stack : List String} {name : String} (unknown : registry.get? name = none) :
      Gives stack (.reference name) none [] stack
  | underway {stack : List String} {name : String} (underway : name ∈ stack) :
      Gives stack (.reference name) none [] stack
  | reference {stack stack' : List String} {name : String} {s : Schema} {fields : Fields Json}
      {inner : List Construction} (registered : registry.get? name = some s) (new : name ∉ stack)
      (h : Builds stack s fields inner stack') :
      Gives stack (.reference name) (some (.obj fields)) [.mk (some name) s.name inner] stack'

/-- What the first variant gives that has a zero.  They are tried in order. -/
inductive Tries : List String → List Variant → Option Json → List Construction → List String →
    Prop where
  | nil (stack : List String) : Tries stack [] none [] stack
  | found {stack stack' : List String} {w : Variant} {rest : List Variant} {v : Json}
      {built : List Construction} (h : Gives stack w (some v) built stack') :
      Tries stack (w :: rest) (some v) built stack'
  | next {stack stack' stack'' : List String} {w : Variant} {rest : List Variant}
      {v : Option Json} {built more : List Construction} (h : Gives stack w none built stack')
      (hr : Tries stack' rest v more stack'') :
      Tries stack (w :: rest) v (built ++ more) stack''

/-- The entries of the properties, which are filled in order. -/
inductive Fills : List String → List Property → Fields Json → List Construction → List String →
    Prop where
  | nil (stack : List String) : Fills stack [] [] [] stack
  | optional {stack stack' : List String} {p : Property} {rest : List Property}
      {fields : Fields Json} {built : List Construction} (optional : p.isOptional = true)
      (hr : Fills stack rest fields built stack') : Fills stack (p :: rest) fields built stack'
  | array {stack stack' : List String} {p : Property} {rest : List Property}
      {fields : Fields Json} {built : List Construction} (required : p.isOptional = false)
      (isArray : p.isArray = true) (hr : Fills stack rest fields built stack') :
      Fills stack (p :: rest) ((p.name, .arr []) :: fields) built stack'
  | zero {stack stack' stack'' : List String} {p : Property} {rest : List Property}
      {v : Option Json} {fields : Fields Json} {built more : List Construction}
      (takes : p.TakesZero) (h : Tries stack p.present v built stack')
      (hr : Fills stack' rest fields more stack'') :
      Fills stack (p :: rest) ((p.name, v.getD (.obj [])) :: fields) (built ++ more) stack''

/-- The record of a schema.  The name that is popped is whichever is on top. -/
inductive Builds : List String → Schema → Fields Json → List Construction → List String →
    Prop where
  | mk {stack stack' : List String} {top : String} {s : Schema} {fields : Fields Json}
      {built : List Construction}
      (h : Fills (s.name :: stack) s.properties fields built (top :: stack')) :
      Builds stack s fields built stack'

end

end Runs

variable {registry : Registry} {stack stack' : List String} {s : Schema} {w : Variant}
  {fields : Fields Json} {built : List Construction}

/-! ### Every run leaves the stack as it was -/

/-- A variant that nests nothing has its zero whatever is being built. -/
theorem ofVariant_of_plain (entered other : List String → String → Option (Fields Json))
    (stack stack' : List String) (h : w.nests = false) :
    ofVariant entered stack w = ofVariant other stack' w := by
  cases w with
  | entity s => cases h
  | reference name => cases h
  | _ => rfl

mutual

theorem Gives.eq {w : Variant} {v : Option Json} {stack stack' : List String}
    {built : List Construction} : Gives registry stack w v built stack' →
      stack' = stack ∧ v = ofVariant (referred registry) stack w
  | .plain plain => ⟨rfl, ofVariant_of_plain _ _ _ _ plain⟩
  | .entity h => by
      obtain ⟨rfl, rfl⟩ := h.eq
      exact ⟨rfl, rfl⟩
  | .unknown unknown => by
      refine ⟨rfl, ?_⟩
      rw [ofVariant, referred_eq, unknown]
      simp
  | .underway underway => by
      refine ⟨rfl, ?_⟩
      rw [ofVariant, referred_eq, if_pos underway]
      rfl
  | .reference registered new h => by
      obtain ⟨rfl, rfl⟩ := h.eq
      refine ⟨rfl, ?_⟩
      rw [ofVariant, referred_eq, if_neg new, registered]
      rfl

theorem Tries.eq {variants : List Variant} {v : Option Json} {stack stack' : List String}
    {built : List Construction} : Tries registry stack variants v built stack' →
      stack' = stack ∧ v = variants.findSome? (ofVariant (referred registry) stack)
  | .nil _ => ⟨rfl, rfl⟩
  | .found h => by
      obtain ⟨rfl, hv⟩ := h.eq
      exact ⟨rfl, by rw [List.findSome?_cons, ← hv]⟩
  | .next h hr => by
      obtain ⟨rfl, hv⟩ := h.eq
      obtain ⟨rfl, rfl⟩ := hr.eq
      exact ⟨rfl, by rw [List.findSome?_cons, ← hv]⟩

theorem Fills.eq {properties : List Property} {fields : Fields Json} {stack stack' : List String}
    {built : List Construction} : Fills registry stack properties fields built stack' →
      stack' = stack ∧ fields = ofProperties (referred registry) stack properties
  | .nil _ => ⟨rfl, rfl⟩
  | .optional optional hr => by
      obtain ⟨rfl, rfl⟩ := hr.eq
      exact ⟨rfl, by simp only [ofProperties, ofProperty_of_optional optional]⟩
  | .array required isArray hr => by
      obtain ⟨rfl, rfl⟩ := hr.eq
      exact ⟨rfl, by simp only [ofProperties, ofProperty_of_isArray required isArray]⟩
  | .zero takes h hr => by
      obtain ⟨rfl, rfl⟩ := h.eq
      obtain ⟨rfl, rfl⟩ := hr.eq
      exact ⟨rfl, by simp only [ofProperties, ofProperty_of_takesZero takes]⟩

/-- **A run leaves the stack as it was**, and gives the default record. -/
theorem Builds.eq {s : Schema} {fields : Fields Json} {stack stack' : List String}
    {built : List Construction} : Builds registry stack s fields built stack' →
      stack' = stack ∧ fields = ofSchema (referred registry) stack s
  | .mk h => by
      obtain ⟨hs, rfl⟩ := h.eq
      obtain ⟨serial, name, properties⟩ := s
      exact ⟨(List.cons.inj hs).2, rfl⟩

end

/-! ### There is a run -/

theorem gives_none (h : ofVariant (referred registry) stack w = none) :
    Gives registry stack w none [] stack := by
  cases w with
  | entity s => cases h
  | reference name =>
      have h : referred registry stack name = none := Option.map_eq_none_iff.mp h
      rw [referred_eq] at h
      by_cases hn : name ∈ stack
      · exact .underway hn
      · rw [if_neg hn] at h
        exact .unknown (Option.map_eq_none_iff.mp h)
  | _ => cases h

/-- A variant that has a zero gives it, once what it nests can be built. -/
theorem exists_gives {v : Json} (h : ofVariant (referred registry) stack w = some v)
    (nested : ∀ t, w.nested? registry = some t → ∃ built,
      Builds registry stack t (ofSchema (referred registry) stack t) built stack) :
    ∃ built, Gives registry stack w (some v) built stack := by
  cases hw : w.nests with
  | false =>
      refine ⟨[], ?_⟩
      rw [← h, ofVariant_of_plain _ (fun _ _ => none) _ [] hw]
      exact .plain hw
  | true =>
      cases w with
      | entity s =>
          obtain rfl := Option.some.inj h
          obtain ⟨inner, run⟩ := nested s rfl
          exact ⟨_, .entity run⟩
      | reference name =>
          obtain ⟨fields, hf, rfl⟩ := Option.map_eq_some_iff.mp h
          obtain ⟨new, s, registered, rfl⟩ := referred_eq_some_iff.mp hf
          obtain ⟨inner, run⟩ := nested s registered
          exact ⟨_, .reference registered new run⟩
      | _ => cases hw

/-- The variants are tried up to the first that has a zero. -/
theorem exists_tries {variants : List Variant}
    (nested : ∀ w t, (variants.find? fun w => (ofVariant (referred registry) stack w).isSome)
      = some w → w.nested? registry = some t → ∃ built,
        Builds registry stack t (ofSchema (referred registry) stack t) built stack) :
    ∃ v built, Tries registry stack variants v built stack := by
  induction variants with
  | nil => exact ⟨none, [], .nil stack⟩
  | cons w rest ih =>
      cases hv : ofVariant (referred registry) stack w with
      | some v =>
          obtain ⟨built, run⟩ := exists_gives hv fun t ht => nested w t (by simp [hv]) ht
          exact ⟨some v, built, .found run⟩
      | none =>
          obtain ⟨v, built, run⟩ := ih fun u t hu ht => nested u t (by simpa [hv] using hu) ht
          exact ⟨v, [] ++ built, .next (gives_none hv) run⟩

theorem exists_fills {properties : List Property}
    (nested : ∀ p ∈ properties, p.TakesZero → ∀ w t, source? registry stack p = some w →
      w.nested? registry = some t → ∃ built,
        Builds registry stack t (ofSchema (referred registry) stack t) built stack) :
    ∃ fields built, Fills registry stack properties fields built stack := by
  induction properties with
  | nil => exact ⟨[], [], .nil stack⟩
  | cons p rest ih =>
      obtain ⟨fields, more, run⟩ := ih fun q hq => nested q (.tail _ hq)
      cases optional : p.isOptional with
      | true => exact ⟨fields, more, .optional optional run⟩
      | false =>
          cases isArray : p.isArray with
          | true => exact ⟨_, more, .array optional isArray run⟩
          | false =>
              have takes : p.TakesZero := ⟨optional, isArray⟩
              obtain ⟨v, built, tries⟩ := exists_tries (nested p (.head _) takes)
              exact ⟨_, built ++ more, .zero takes tries run⟩

/-- **Building ends**: from every stack there is a run. -/
theorem builds_ofSchema (registry : Registry) (stack : List String) (s : Schema) :
    ∃ built, Builds registry stack s (ofSchema (referred registry) stack s) built stack := by
  induction stack, s using Enters.induction registry with
  | step stack s ih =>
      have filled : ∃ fields built,
          Fills registry (s.name :: stack) s.properties fields built (s.name :: stack) :=
        exists_fills fun p hp takes w t source nested => ih t ⟨hp, takes, source, nested⟩
      obtain ⟨fields, built, fills⟩ := filled
      have run : Builds registry stack s fields built stack := .mk fills
      obtain ⟨-, rfl⟩ := run.eq
      exact ⟨built, run⟩

/-! ### Records inside a record -/

/-- The record was built by a run from the stack, which it left as it was.  Where it was entered
through a reference, the name was registered and not on the stack. -/
structure Started (registry : Registry) (stack : List String) (c : Construction) (t : Schema) :
    Prop where
  name : c.name = t.name
  run : ∃ fields, Builds registry stack t fields c.inner stack
  registered : ∀ name ∈ c.entered, registry.get? name = some t
  new : ∀ name ∈ c.entered, name ∉ stack

theorem Gives.started {v : Option Json} (h : Gives registry stack w v built stack')
    {c : Construction} (hc : c ∈ built) : ∃ t, Started registry stack c t := by
  cases h with
  | plain => cases hc
  | unknown => cases hc
  | underway => cases hc
  | entity run =>
      obtain rfl := List.mem_singleton.mp hc
      obtain ⟨rfl, -⟩ := run.eq
      exact ⟨_, rfl, ⟨_, run⟩, fun _ hn => (by cases hn), fun _ hn => (by cases hn)⟩
  | reference registered new run =>
      obtain rfl := List.mem_singleton.mp hc
      obtain ⟨rfl, -⟩ := run.eq
      refine ⟨_, rfl, ⟨_, run⟩, fun name h => ?_, fun name h => ?_⟩ <;>
        obtain rfl := Option.some.inj h <;> assumption

theorem Tries.started {variants : List Variant} {v : Option Json} {stack stack' : List String}
    {built : List Construction} : Tries registry stack variants v built stack' →
      ∀ {c : Construction}, c ∈ built → ∃ t, Started registry stack c t
  | .nil _, _, hc => by cases hc
  | .found h, _, hc => h.started hc
  | .next h hr, _, hc => by
      obtain ⟨rfl, -⟩ := h.eq
      exact (List.mem_append.mp hc).elim h.started hr.started

theorem Fills.started {properties : List Property} {fields : Fields Json}
    {stack stack' : List String} {built : List Construction} :
    Fills registry stack properties fields built stack' →
      ∀ {c : Construction}, c ∈ built → ∃ t, Started registry stack c t
  | .nil _, _, hc => by cases hc
  | .optional _ hr, _, hc => hr.started hc
  | .array _ _ hr, _, hc => hr.started hc
  | .zero _ h hr, _, hc => by
      obtain ⟨rfl, -⟩ := h.eq
      exact (List.mem_append.mp hc).elim h.started hr.started

/-- **What is built inside a record is built by a run of its own**, from the stack with the record's
name. -/
theorem Builds.started (h : Builds registry stack s fields built stack') {c : Construction}
    (hc : c ∈ built) : ∃ t, Started registry (s.name :: stack) c t := by
  cases h with
  | mk fills => exact fills.started hc

end Default

/-! ### Records inside one another -/

namespace Construction.Path

variable {registry : Registry} {stack : List String} {built : List Construction}

/-- The stack that a record is built from has the names of the records around it. -/
theorem started (h : ∀ c ∈ built, ∃ t, Default.Started registry stack c t)
    {outer : List Construction} {c : Construction} (path : Path built (outer ++ [c])) :
    ∃ t, Default.Started registry ((outer.map name).reverse ++ stack) c t := by
  induction outer generalizing built stack with
  | nil =>
      cases path with
      | cons hc _ => exact h c hc
  | cons o outer ih =>
      cases path with
      | cons ho path =>
          obtain ⟨t, named, ⟨fields, run⟩, -, -⟩ := h o ho
          rw [List.map_cons, List.reverse_cons, List.append_assoc, named]
          exact ih (fun c hc => run.started hc) path

/-- Along a path no name is entered twice, nor one that was on the stack. -/
theorem nodup_entered (h : ∀ c ∈ built, ∃ t, Default.Started registry stack c t)
    {path : List Construction} (hp : Path built path) :
    (path.filterMap entered).Nodup ∧ ∀ name ∈ path.filterMap entered, name ∉ stack := by
  induction hp generalizing stack with
  | nil => simp
  | @cons built path c hc _ ih =>
      obtain ⟨t, named, ⟨fields, run⟩, registered, new⟩ := h c hc
      obtain ⟨nodup, clear⟩ := ih fun c hc => run.started hc
      have inner (name : String) (hn : name ∈ path.filterMap entered) : name ∉ stack :=
        fun hs => clear name hn (.tail _ hs)
      cases he : c.entered with
      | none =>
          rw [List.filterMap_cons_none he]
          exact ⟨nodup, inner⟩
      | some name =>
          -- the name is the record's own, which is on the stack for what is inside
          obtain rfl : t.name = name := Registry.name_of_get? (registered name he)
          rw [List.filterMap_cons_some he]
          refine ⟨List.nodup_cons.mpr ⟨fun hn => clear _ hn (.head _), nodup⟩, fun other ho => ?_⟩
          rcases List.mem_cons.mp ho with rfl | ho
          · exact new _ he
          · exact inner other ho

end Construction.Path

/-- **Building a default record ends.**  Whatever references lead to, there is a run of it, and every
run gives the default record and leaves the stack of names in progress as it was.  A record inside
that one is built by such a run too, from the stack of the names around it; where it is entered
through a reference, the name is registered and not on that stack.  So along a path of records inside
one another no name is entered through a reference twice. -/
theorem building_ends (registry : Registry) (s : Schema) :
    (∃ built, Default.Builds registry [] s (s.defaultFields registry) built [])
    ∧ (∀ stack t fields built stack', Default.Builds registry stack t fields built stack' →
        fields = Default.ofSchema (Default.referred registry) stack t ∧ stack' = stack)
    ∧ ∀ fields built stack, Default.Builds registry [] s fields built stack →
      (∀ outer c, Construction.Path built (outer ++ [c]) →
        ∃ t, Default.Started registry ((outer.map Construction.name).reverse ++ [s.name]) c t)
      ∧ ∀ path, Construction.Path built path →
        (path.filterMap Construction.entered).Nodup
          ∧ ∀ name ∈ path.filterMap Construction.entered, name ≠ s.name := by
  refine ⟨Default.builds_ofSchema registry [] s, fun stack t fields built stack' run => run.eq.symm,
    fun fields built stack run => ?_⟩
  have started (c : Construction) (hc : c ∈ built) := run.started hc
  refine ⟨fun outer c path => path.started started, fun path hp => ?_⟩
  obtain ⟨nodup, clear⟩ := hp.nodup_entered started
  exact ⟨nodup, fun name hn e => clear name hn (List.mem_singleton.mpr e)⟩

/-- A default author has a favourite book in it, and the book has a cover.  Its author would be an
author again, and is not entered: the book's cover is as deep as it goes. -/
theorem building_ends_author :
    Default.Builds .library [] Schema.author (Schema.author.defaultFields .library)
        [.mk (some "Book") "Book" [.mk none "Cover" []]] []
      ∧ ∃ t, Default.Started .library ["Book", "Author"] (.mk none "Cover" []) t := by
  have cover : Default.Tries .library ["Book", "Author"] [.entity .cover] (some (.obj []))
      [.mk none "Cover" []] ["Book", "Author"] :=
    .found (.entity (.mk (.optional rfl (.nil _))))
  have writer : Default.Tries .library ["Book", "Author"] [.reference "Author"] none []
      ["Book", "Author"] :=
    .next (.underway (by simp)) (.nil _)
  have book : Default.Builds .library ["Author"] Schema.book
      [("kind", .str "novel"), ("notes", .arr []), ("cover", .obj []), ("author", .obj [])]
      [.mk none "Cover" []] ["Author"] :=
    .mk (.zero (p := .mk "kind" [.enumeration "Kind" [.str "novel", .null]] false) ⟨rfl, rfl⟩
      (.found (.plain rfl)) (.array (p := .mk "notes" [.string] true) rfl rfl
      (.zero (p := .mk "cover" [.entity .cover] false) ⟨rfl, rfl⟩ cover
      (.zero (p := .mk "author" [.reference "Author"] false) ⟨rfl, rfl⟩ writer (.nil _)))))
  have favourite : Default.Tries .library ["Author"] [.reference "Book", .null] _ _ ["Author"] :=
    .found (.reference rfl (by decide) book)
  have author : Default.Builds .library [] Schema.author (Schema.author.defaultFields .library)
      [.mk (some "Book") "Book" [.mk none "Cover" []]] [] :=
    .mk (.zero (p := .mk "name" [.string] false) ⟨rfl, rfl⟩ (.found (.plain rfl))
      (.zero (p := .mk "favourite" [.reference "Book", .null] false) ⟨rfl, rfl⟩ favourite (.nil _)))
  refine ⟨author, ?_⟩
  obtain ⟨-, -, inside⟩ := building_ends .library Schema.author
  exact (inside _ _ _ author).1 [.mk (some "Book") "Book" [.mk none "Cover" []]] _
    (.cons (.head _) (.cons (.head _) (.nil _)))

end Dossier
