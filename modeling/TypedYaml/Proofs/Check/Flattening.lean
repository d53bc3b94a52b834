import TypedYaml.Proofs.Check.Locality
import TypedYaml.Proofs.Path.RoundTrip

/-!
# Writing nested keys as one

An entry of a nested mapping may also be written in the mapping outside, with one key that joins
the keys by dots. If the nested form has no errors, the flat form has none.

The flat key is cut after the longest declared name that it starts with, and the rest is read as a
path. If no other declared name gets in between, the cut is where the keys were joined
(`dottedProperty?_eq_some`), so the flat form is followed through the type of the nested mapping
(`errorFree_flattened`). In the nested form the same keys are looked up in a mapping of that type,
and have to lead to the same type for its value (`exists_resolve_of_errorFree`).

They need not where the nested mapping takes a key with dots as it stands: in an open map, at a
declared name with a dot, and where the type is unknown. These are left out (`ReadsBySegments`).

* `dotted`, `Covers`: joined keys, and the names with which they start.
* `ErrorFree`: reports without errors.
* `validate_flattened`: the flat form of an entry without errors.
-/

namespace TypedYaml

open Text PathParser

/-! ## Keys with dots between them -/

/-- The key that stands for keys of mappings inside each other. -/
def dotted (keys : List String) : String := ".".intercalate keys

/-- The name stands for the key or for a part of it that ends before a dot. -/
def Covers (name key : String) : Prop := name = key ∨ (name.toList ++ ['.']) <+: key.toList

instance (name key : String) : Decidable (Covers name key) :=
  inferInstanceAs (Decidable (_ ∨ _))

/-- The name is what comes before one of the dots of the key. -/
def BeforeDot (name key : String) : Prop := (name.toList ++ ['.']) <+: key.toList

instance (name key : String) : Decidable (BeforeDot name key) :=
  inferInstanceAs (Decidable (_ <+: _))

theorem toList_dotted_cons (key : String) (keys : List String) :
    (dotted (key :: keys)).toList = key.toList ++ keys.flatMap fun k => '.' :: k.toList := by
  induction keys generalizing key with
  | nil => simp [dotted]
  | cons k keys ih =>
    have hcons : dotted (key :: k :: keys) = key ++ "." ++ dotted (k :: keys) :=
      String.intercalate_cons_cons
    rw [hcons, String.toList_append, String.toList_append, ih, List.flatMap_cons]
    simp

theorem toList_dotted_append {keys : List String} (hne : keys ≠ []) (key : String) :
    (dotted (key :: keys)).toList = key.toList ++ '.' :: (dotted keys).toList := by
  obtain ⟨k, keys, rfl⟩ := List.exists_cons_of_ne_nil hne
  rw [toList_dotted_cons, toList_dotted_cons, List.flatMap_cons, List.cons_append]

theorem dot_notMem_of_isName {cs : List Char} (h : isName cs) : '.' ∉ cs := by
  intro hmem
  simp only [isName, Bool.and_eq_true] at h
  exact absurd (List.all_eq_true.mp h.2 '.' hmem) (by decide)

/-- What comes before the first dot. -/
theorem eq_of_append_dot {cs ds cs' ds' : List Char} (hcs : '.' ∉ cs) (hds : '.' ∉ ds)
    (h : cs ++ '.' :: cs' = ds ++ '.' :: ds') : cs = ds := by
  have hbefore : ∀ {cs cs' : List Char}, '.' ∉ cs →
      (cs ++ '.' :: cs').takeWhile (· != '.') = cs := by
    intro cs cs' hcs
    refine (takeWhile_append_head (fun c hc => ?_) ?_).1
    · exact bne_iff_ne.mpr fun heq => hcs (heq ▸ hc)
    · rintro _ ⟨⟩
      decide
  rw [← hbefore hcs, h, hbefore hds]

theorem charsAfter_keys {keys : List String} (h : ∀ key ∈ keys, isName key.toList) :
    Path.charsAfter (keys.map .key) = keys.flatMap fun k => '.' :: k.toList := by
  induction keys with
  | nil => rfl
  | cons key keys ih =>
    have hkey := h key List.mem_cons_self
    have hkeys := ih fun k hk => h k (List.mem_cons_of_mem _ hk)
    rw [List.map_cons, Path.charsAfter, hkeys]
    simp [Segment.isBare, Segment.chars, hkey]

/-- A key made of names is the written form of a path. -/
theorem parse_dotted {keys : List String} (hne : keys ≠ [])
    (h : ∀ key ∈ keys, isName key.toList) :
    Path.parse (dotted keys) = .ok (keys.map .key) := by
  obtain ⟨key, keys, rfl⟩ := List.exists_cons_of_ne_nil hne
  have hkey := h key List.mem_cons_self
  have hchars : (dotted (key :: keys)).toList = Path.chars ((key :: keys).map .key) := by
    rw [toList_dotted_cons, List.map_cons, Path.chars,
      charsAfter_keys fun k hk => h k (List.mem_cons_of_mem _ hk)]
    simp [Segment.chars, hkey]
  rw [Path.parse, hchars, List.map_cons, expression_chars]
  rfl

/-! ## Reports without errors -/

/-- There may be warnings. -/
def ErrorFree (ds : List Diagnostic) : Prop := ∀ d ∈ ds, d.isError = false

theorem errorFree_append {ds es : List Diagnostic} :
    ErrorFree (ds ++ es) ↔ ErrorFree ds ∧ ErrorFree es := List.forall_mem_append

theorem errorFree_map_under {ds : List Diagnostic} {s : Segment} :
    ErrorFree (ds.map (.under s)) ↔ ErrorFree ds := List.forall_mem_map

theorem not_errorFree_singleton {d : Diagnostic} (hd : d.isError) : ¬ ErrorFree [d] := by
  intro h
  rw [h d List.mem_cons_self] at hd
  cases hd

namespace Registry

/-! ## The property with which a dotted key starts -/

theorem mem_cutsAtDots {cs left right : List Char} :
    (left, right) ∈ cutsAtDots cs ↔ cs = left ++ '.' :: right := by
  induction cs generalizing left with
  | nil => simp [cutsAtDots]
  | cons c cs ih =>
    have hlater : (∃ l r, (l, r) ∈ cutsAtDots cs ∧ c :: l = left ∧ r = right) ↔
        ∃ l, left = c :: l ∧ cs = l ++ '.' :: right := by
      constructor
      · rintro ⟨l, _, hmem, rfl, rfl⟩
        exact ⟨l, rfl, ih.mp hmem⟩
      · rintro ⟨l, rfl, hcs⟩
        exact ⟨l, right, ih.mpr hcs, rfl, rfl⟩
    by_cases hc : c = '.'
    · simp only [cutsAtDots, if_pos hc, List.mem_append, List.mem_map, Prod.exists, Prod.mk.injEq,
        hlater, List.mem_singleton, List.cons_eq_append_iff, List.cons.injEq]
      rw [or_comm]
      simp [hc]
    · simp only [cutsAtDots, if_neg hc, List.mem_map, Prod.exists, Prod.mk.injEq, hlater,
        List.cons_eq_append_iff, List.cons.injEq]
      simp [Ne.symm hc]

variable {r : Registry} {o : CheckOptions} {t : TypeId}

theorem property?_eq_none {key : String} :
    (r.descriptor t).property? key = none ↔
      ∀ q ∈ (r.descriptor t).properties, q.name ≠ key := by
  simp [Descriptor.property?]

theorem exists_of_dottedProperty? {key rest : String} {p : Property}
    (h : r.dottedProperty? t key = some (p, rest)) :
    (r.descriptor t).property? p.name = some p ∧ p ∈ (r.descriptor t).properties ∧
      key.toList = p.name.toList ++ '.' :: rest.toList := by
  obtain ⟨⟨left, right⟩, hcut, hfound⟩ := List.exists_of_findSome?_eq_some h
  obtain ⟨q, hq, heq⟩ := Option.map_eq_some_iff.mp hfound
  cases heq
  have hname : p.name = String.ofList left := by simpa using List.find?_some hq
  refine ⟨by rw [hname]; exact hq, List.mem_of_find?_eq_some hq, ?_⟩
  rw [mem_cutsAtDots.mp hcut, hname, String.toList_ofList, String.toList_ofList]

/-- The later the dot, the more comes before it. -/
theorem pairwise_cutsAtDots (cs : List Char) :
    (cutsAtDots cs).Pairwise fun cut later => later.1.length < cut.1.length := by
  induction cs with
  | nil => exact .nil
  | cons c cs ih =>
    rw [cutsAtDots]
    split
    · refine List.pairwise_append.mpr
        ⟨List.pairwise_map.mpr (ih.imp Nat.succ_lt_succ), List.pairwise_singleton _ _, ?_⟩
      intro cut hcut later hlater
      obtain ⟨e, -, rfl⟩ := List.mem_map.mp hcut
      rw [List.mem_singleton.mp hlater]
      exact Nat.succ_pos _
    · exact List.pairwise_map.mpr (ih.imp Nat.succ_lt_succ)

/-- No declared name that ends before a dot is longer than the one that is found. -/
theorem length_le_of_dottedProperty? {key name rest : String} {p q : Property} {right : List Char}
    (h : r.dottedProperty? t key = some (p, rest))
    (hq : (r.descriptor t).property? name = some q)
    (hkey : key.toList = name.toList ++ '.' :: right) : name.length ≤ p.name.length := by
  obtain ⟨before, ⟨left, right'⟩, after, hcuts, hfound, hbefore⟩ :=
    List.findSome?_eq_some_iff.mp h
  obtain ⟨p', hp', heq⟩ := Option.map_eq_some_iff.mp hfound
  cases heq
  have hname : p.name = String.ofList left := by simpa using List.find?_some hp'
  have hlength : p.name.length = left.length := by rw [hname, String.length_ofList]
  have hmem : (name.toList, right) ∈ before ++ (left, right') :: after :=
    hcuts ▸ mem_cutsAtDots.mpr hkey
  rw [hlength, ← String.length_toList]
  rcases List.mem_append.mp hmem with hmem | hmem
  · have hnone := hbefore _ hmem
    simp [hq] at hnone
  · rcases List.mem_cons.mp hmem with heq | hmem
    · exact Nat.le_of_eq (congrArg List.length (Prod.mk.inj heq).1)
    · have hpairwise := pairwise_cutsAtDots key.toList
      rw [hcuts] at hpairwise
      have hafter := (List.pairwise_cons.mp (List.pairwise_append.mp hpairwise).2.1).1
      exact Nat.le_of_lt (hafter _ hmem)

/-- The key is cut after the longest declared name that ends before one of its dots. -/
theorem dottedProperty?_of_longest {key name rest : String} {p : Property}
    (hp : (r.descriptor t).property? name = some p)
    (hkey : key.toList = name.toList ++ '.' :: rest.toList)
    (hlongest : ∀ q ∈ (r.descriptor t).properties,
      BeforeDot q.name key → q.name.length ≤ name.length) :
    r.dottedProperty? t key = some (p, rest) := by
  cases hfound : r.dottedProperty? t key with
  | none =>
    have hcut : (name.toList, rest.toList) ∈ cutsAtDots key.toList := mem_cutsAtDots.mpr hkey
    have hnone := List.findSome?_eq_none_iff.mp hfound _ hcut
    simp [hp] at hnone
  | some e =>
    obtain ⟨q, rest'⟩ := e
    obtain ⟨hq, hmem, hcut⟩ := exists_of_dottedProperty? hfound
    have hle : q.name.length ≤ name.length :=
      hlongest q hmem ⟨rest'.toList, by rw [hcut]; simp⟩
    have hge : name.length ≤ q.name.length := length_le_of_dottedProperty? hfound hp hkey
    have hlength : name.toList.length = q.name.toList.length := by
      rw [String.length_toList, String.length_toList]
      exact Nat.le_antisymm hge hle
    obtain ⟨hname, hrest⟩ := List.append_inj (hkey.symm.trans hcut) hlength
    have hname : name = q.name := String.toList_inj.mp hname
    have hrest : rest = rest' := String.toList_inj.mp (List.cons.inj hrest).2
    rw [← hname, hp] at hq
    cases hq
    rw [hrest]

/-- The longest name is the only one. -/
theorem dottedProperty?_eq_some {key name rest : String} {p : Property}
    (hp : (r.descriptor t).property? name = some p)
    (hkey : key.toList = name.toList ++ '.' :: rest.toList)
    (hunique : ∀ q ∈ (r.descriptor t).properties, Covers q.name key → q.name = name) :
    r.dottedProperty? t key = some (p, rest) :=
  dottedProperty?_of_longest hp hkey fun q hq hdot =>
    Nat.le_of_eq (congrArg String.length (hunique q hq (Or.inr hdot)))

theorem dottedProperty?_eq_none {key : String}
    (h : ∀ q ∈ (r.descriptor t).properties, ¬ BeforeDot q.name key) :
    r.dottedProperty? t key = none := by
  cases hfound : r.dottedProperty? t key with
  | none => rfl
  | some e =>
    obtain ⟨-, hmem, hcut⟩ := exists_of_dottedProperty? hfound
    exact absurd ⟨e.2.toList, by rw [hcut]; simp⟩ (h e.1 hmem)

/-! ## Reading dotted keys -/

theorem resolveText?_dotted {keys : List String} (hne : keys ≠ [])
    (hnames : ∀ key ∈ keys, isName key.toList) :
    r.resolveText? t (dotted keys) = (r.resolve t (keys.map .key)).toOption := by
  rw [resolveText?, parse_dotted hne hnames]
  rfl

/-- A property with the whole key as its name would cover it and so be the one with the name before
the dot, which is shorter. -/
theorem property?_dotted {name : String} {keys : List String} (hne : keys ≠ [])
    (hunique : ∀ q ∈ (r.descriptor t).properties,
      Covers q.name (dotted (name :: keys)) → q.name = name) :
    (r.descriptor t).property? (dotted (name :: keys)) = none := by
  refine property?_eq_none.mpr fun q hq hkey => ?_
  have htext := toList_dotted_append hne name
  rw [← hkey, hunique q hq (Or.inl hkey)] at htext
  simp at htext

/-- What follows a declared property is read as a path. -/
theorem resolveDotted?_of_property {name : String} {p : Property} {keys : List String}
    (hp : (r.descriptor t).property? name = some p) (hne : keys ≠ [])
    (hnames : ∀ key ∈ keys, isName key.toList)
    (hunique : ∀ q ∈ (r.descriptor t).properties,
      Covers q.name (dotted (name :: keys)) → q.name = name) :
    r.resolveDotted? t (dotted (name :: keys)) =
      (r.resolve p.type (keys.map .key)).toOption := by
  have hkey := toList_dotted_append hne name
  have hdot : '.' ∈ (dotted (name :: keys)).toList := by simp [hkey]
  rw [resolveDotted?, dottedProperty?_eq_some hp hkey hunique]
  simp [hdot, resolveText?_dotted hne hnames]

/-- Of the names without a dot, only the first of the keys covers them. -/
theorem eq_of_covers {name key : String} {keys : List String} (hname : '.' ∉ name.toList)
    (hkey : isName key.toList) (hne : keys ≠ []) (h : Covers name (dotted (key :: keys))) :
    name = key := by
  have htext := toList_dotted_append hne key
  rcases h with rfl | ⟨rest, hrest⟩
  · exact absurd (by simp [htext]) hname
  · rw [htext, List.append_assoc, List.singleton_append] at hrest
    exact String.toList_inj.mp (eq_of_append_dot hname (dot_notMem_of_isName hkey) hrest)

/-- Where no declared name with a dot gets in the way, a dotted key is read as a path. -/
theorem resolveDotted?_dotted {key : String} {keys : List String} (hk : r.kind t = .bean)
    (hne : keys ≠ []) (hnames : ∀ k ∈ key :: keys, isName k.toList)
    (hplain : ∀ q ∈ (r.descriptor t).properties, '.' ∈ q.name.toList →
      ¬ Covers q.name (dotted (key :: keys))) :
    r.resolveDotted? t (dotted (key :: keys)) =
      (r.resolve t ((key :: keys).map .key)).toOption := by
  have hkey := hnames key List.mem_cons_self
  have hunique : ∀ q ∈ (r.descriptor t).properties, Covers q.name (dotted (key :: keys)) →
      q.name = key := by
    intro q hq hcovers
    by_cases hdot : '.' ∈ q.name.toList
    · exact absurd hcovers (hplain q hq hdot)
    · exact eq_of_covers hdot hkey hne hcovers
  cases hp : (r.descriptor t).property? key with
  | some p =>
    have hnext : r.next t (.key key) = .ok p.type := by simp [next_eq, hk, hp]
    have hkeys : ∀ k ∈ keys, isName k.toList := fun k hk => hnames k (List.mem_cons_of_mem _ hk)
    rw [resolveDotted?_of_property hp hne hkeys hunique, List.map_cons,
      resolve_cons_of_next _ hnext]
    cases r.resolve p.type (keys.map .key) <;> rfl
  | none =>
    have hnone : r.dottedProperty? t (dotted (key :: keys)) = none :=
      dottedProperty?_eq_none fun q hq hdot =>
        property?_eq_none.mp hp q hq (hunique q hq (Or.inr hdot))
    have hdot : '.' ∈ (dotted (key :: keys)).toList := by simp [toList_dotted_append hne key]
    rw [resolveDotted?, hnone]
    simp [hdot, resolveText?_dotted (List.cons_ne_nil _ _) hnames]

/-! ## Entries without errors -/

/-- Keys below the type are read one by one, whether there are dots between them or not. Nothing
can be read where the type is unknown. An open map takes a key with dots as it stands, and so does
a declared name with a dot. -/
def ReadsBySegments (r : Registry) (t : TypeId) (keys : List String) : Prop :=
  r.isUnknown t = false ∧
    (2 ≤ keys.length → r.isOpenMap t = false ∧
      ∀ q ∈ (r.descriptor t).properties, '.' ∈ q.name.toList → ¬ Covers q.name (dotted keys))

theorem errorFree_deprecations (o : CheckOptions) (p : Property) :
    ErrorFree (deprecations o p) := by
  intro d hd
  rw [Diagnostic.isError_eq, (of_mem_deprecations hd).2]
  rfl

theorem errorFree_checkEntry_of_property {key : String} {p : Property} (v : Node)
    (hp : (r.descriptor t).property? key = some p) :
    ErrorFree (r.checkEntry o t key v) ↔ ErrorFree (r.check o p.type v) := by
  have hentry : r.checkEntry o t key v = deprecations o p ++ r.check o p.type v := by
    rw [checkEntry, entryType, hp]
  rw [hentry, errorFree_append]
  exact and_iff_right (errorFree_deprecations o p)

/-- An undeclared key of a bean has to stand for a path. -/
theorem errorFree_checkEntry_of_bean {key : String} (v : Node) (hk : r.kind t = .bean)
    (hp : (r.descriptor t).property? key = none) :
    ErrorFree (r.checkEntry o t key v) ↔
      ∃ u, r.resolveDotted? t key = some u ∧ ErrorFree (r.check o u v) := by
  rw [checkEntry_of_undeclared hk hp]
  cases hd : r.resolveDotted? t key with
  | none =>
    refine iff_of_false (not_errorFree_singleton rfl) ?_
    rintro ⟨u, hu, -⟩
    cases hu
  | some u => simp

theorem check_entry (key : String) (v : Node) (hk : r.isMap t) :
    r.check o t (.mapping [(key, v)]) = (r.checkEntry o t key v).map (.under (.key key)) := by
  have hentries : r.check o t (.mapping [(key, v)]) = r.checkEntries o t [(key, v)] := by
    rw [check_eq]
    unfold isMap at hk
    cases hkind : r.kind t <;> simp_all
  rw [hentries, checkEntries_eq]
  exact List.flatMap_singleton _ _

theorem errorFree_check_entry (key : String) (v : Node) (hk : r.isMap t) :
    ErrorFree (r.check o t (.mapping [(key, v)])) ↔ ErrorFree (r.checkEntry o t key v) := by
  rw [check_entry key v hk, errorFree_map_under]

/-- Of the known types, only those with keys take a mapping. -/
theorem isMap_of_errorFree {entries : List (String × Node)} (hknown : r.isUnknown t = false)
    (h : ErrorFree (r.check o t (.mapping entries))) : r.isMap t := by
  unfold isUnknown at hknown
  rw [check] at h
  cases hk : r.kind t with
  | unknown => simp [hk] at hknown
  | atomic | sequence element =>
    rw [hk] at h
    exact absurd h (not_errorFree_singleton rfl)
  | bean | map value => simp [isMap, hk]

theorem resolve_key {key : String} {u : TypeId} (h : r.next t (.key key) = .ok u) :
    r.resolve t [.key key] = .ok u := by
  rw [resolve_cons_of_next [] h]
  rfl

theorem exists_resolve_key {key : String} {v : Node} (hmap : r.isMap t) (hkey : '.' ∉ key.toList)
    (h : ErrorFree (r.checkEntry o t key v)) :
    ∃ u, r.resolve t [.key key] = .ok u ∧ ErrorFree (r.check o u v) := by
  unfold isMap at hmap
  cases hp : (r.descriptor t).property? key with
  | some p =>
    rw [errorFree_checkEntry_of_property v hp] at h
    refine ⟨p.type, resolve_key ?_, h⟩
    cases hk : r.kind t <;> simp_all [next_eq]
  | none =>
    cases hk : r.kind t with
    | bean =>
      obtain ⟨u, hu, -⟩ := (errorFree_checkEntry_of_bean v hk hp).mp h
      simp [resolveDotted?, hkey] at hu
    | map value =>
      have hentry : r.checkEntry o t key v = r.check o value v := by
        simp [checkEntry, entryType, hp, isOpenMap, domain, hk]
      rw [hentry] at h
      exact ⟨value, resolve_key (by simp [next_eq, hk, hp]), h⟩
    | unknown | atomic | sequence element => simp [hk] at hmap

theorem exists_resolve_dotted {key : String} {keys : List String} {v : Node}
    (hk : r.kind t = .bean) (hne : keys ≠ []) (hnames : ∀ k ∈ key :: keys, isName k.toList)
    (hplain : ∀ q ∈ (r.descriptor t).properties, '.' ∈ q.name.toList →
      ¬ Covers q.name (dotted (key :: keys)))
    (h : ErrorFree (r.checkEntry o t (dotted (key :: keys)) v)) :
    ∃ u, r.resolve t ((key :: keys).map .key) = .ok u ∧ ErrorFree (r.check o u v) := by
  have hundeclared : (r.descriptor t).property? (dotted (key :: keys)) = none := by
    refine property?_eq_none.mpr fun q hq hname => ?_
    have hdot : '.' ∈ q.name.toList := by
      rw [hname, toList_dotted_append hne]
      exact List.mem_append_right _ List.mem_cons_self
    exact hplain q hq hdot (Or.inl hname)
  obtain ⟨u, hu, hv⟩ := (errorFree_checkEntry_of_bean v hk hundeclared).mp h
  rw [resolveDotted?_dotted hk hne hnames hplain] at hu
  cases hres : r.resolve t ((key :: keys).map .key) with
  | error e =>
    rw [hres] at hu
    cases hu
  | ok w =>
    rw [hres] at hu
    cases hu
    exact ⟨u, rfl, hv⟩

/-- Where an entry without errors has a key made of names, these lead to the type of its value. -/
theorem exists_resolve_of_errorFree {keys : List String} {v : Node} (hne : keys ≠ [])
    (hnames : ∀ key ∈ keys, isName key.toList) (hreads : r.ReadsBySegments t keys)
    (h : ErrorFree (r.check o t (.mapping [(dotted keys, v)]))) :
    ∃ u, r.resolve t (keys.map .key) = .ok u ∧ ErrorFree (r.check o u v) := by
  have hmap := isMap_of_errorFree hreads.1 h
  rw [errorFree_check_entry _ _ hmap] at h
  obtain ⟨key, keys, rfl⟩ := List.exists_cons_of_ne_nil hne
  cases keys with
  | nil =>
    -- a single key is looked up as it is, in an open map as well
    have hsingle : dotted [key] = key := String.intercalate_singleton
    rw [hsingle] at h
    exact exists_resolve_key hmap (dot_notMem_of_isName (hnames key List.mem_cons_self)) h
  | cons k keys =>
    obtain ⟨hopen, hplain⟩ := hreads.2 (by simp)
    have hk : r.kind t = .bean := by
      unfold isMap at hmap
      unfold isOpenMap at hopen
      cases hk : r.kind t <;> simp_all
    exact exists_resolve_dotted hk (List.cons_ne_nil _ _) hnames hplain h

/-- A key that starts with a declared property is followed through the type of that property. -/
theorem errorFree_flattened {name : String} {p : Property} {keys : List String} (v : Node)
    (hk : r.kind t = .bean) (hp : (r.descriptor t).property? name = some p) (hne : keys ≠ [])
    (hnames : ∀ key ∈ keys, isName key.toList)
    (hunique : ∀ q ∈ (r.descriptor t).properties,
      Covers q.name (dotted (name :: keys)) → q.name = name) :
    ErrorFree (r.check o t (.mapping [(dotted (name :: keys), v)])) ↔
      ∃ u, r.resolve p.type (keys.map .key) = .ok u ∧ ErrorFree (r.check o u v) := by
  have hmap : r.isMap t := by simp [isMap, hk]
  have hundeclared := property?_dotted hne hunique
  rw [errorFree_check_entry _ _ hmap, errorFree_checkEntry_of_bean _ hk hundeclared,
    resolveDotted?_of_property hp hne hnames hunique]
  cases r.resolve p.type (keys.map .key) <;> simp [Except.toOption]

end Registry

/-- An entry below a declared property may as well be written with one key. -/
theorem validate_flattened (r : Registry) (o : CheckOptions) {bean : TypeId} {name : String}
    {p : Property} {keys : List String} {v : Node} (hbean : r.kind bean = .bean)
    (hp : (r.descriptor bean).property? name = some p) (hne : keys ≠ [])
    (hnames : ∀ key ∈ keys, isName key.toList)
    (hunique : ∀ q ∈ (r.descriptor bean).properties,
      Covers q.name (dotted (name :: keys)) → q.name = name)
    (hreads : r.ReadsBySegments p.type keys)
    (hnested : ErrorFree (r.validate o bean (.mapping [(name, .mapping [(dotted keys, v)])]))) :
    ErrorFree (r.validate o bean (.mapping [(dotted (name :: keys), v)])) := by
  have hmap : r.isMap bean := by simp [Registry.isMap, hbean]
  rw [Registry.validate_eq_check rfl, Registry.errorFree_check_entry _ _ hmap,
    Registry.errorFree_checkEntry_of_property _ hp] at hnested
  rw [Registry.validate_eq_check rfl,
    Registry.errorFree_flattened v hbean hp hne hnames hunique]
  exact Registry.exists_resolve_of_errorFree hne hnames hreads hnested

/-- The port of the encryption of a server. -/
theorem validate_flattened_tls :
    let tls := ((Builder.new.bean "Tls").2.addProperty ⟨5⟩ ⟨"port", .integer, none, none⟩).2
    let server := ((tls.bean "Server").2.addProperty ⟨6⟩ ⟨"tls", ⟨5⟩, none, none⟩).2
    let p : Property := ⟨"server", ⟨6⟩, none, none⟩
    let r := ((server.bean "Config").2.addProperty ⟨7⟩ p).2.build
    let keys := ["tls", "port"]
    let v : Node := .string " 8443"
    dotted keys = "tls.port" ∧ dotted ("server" :: keys) = "server.tls.port" ∧
      r.ReadsBySegments p.type keys ∧
      ErrorFree (r.validate ⟨true⟩ ⟨7⟩ (.mapping [("server", .mapping [(dotted keys, v)])])) ∧
      ErrorFree (r.validate ⟨true⟩ ⟨7⟩ (.mapping [(dotted ("server" :: keys), v)])) := by
  intro tls server p r keys v
  have hp : (r.descriptor ⟨7⟩).property? "server" = some p := rfl
  have hne : keys ≠ [] := List.cons_ne_nil _ _
  have hnames : ∀ key ∈ keys, isName key.toList := by decide
  have hunique : ∀ q ∈ (r.descriptor ⟨7⟩).properties,
      Covers q.name (dotted ("server" :: keys)) → q.name = "server" := by decide
  have hreads : r.ReadsBySegments p.type keys := ⟨rfl, fun _ => ⟨rfl, by decide⟩⟩
  have hinner : ErrorFree (r.check ⟨true⟩ ⟨6⟩ (.mapping [(dotted keys, v)])) := by
    have htls : (r.descriptor ⟨6⟩).property? "tls" = some ⟨"tls", ⟨5⟩, none, none⟩ := rfl
    rw [Registry.errorFree_flattened v rfl htls (List.cons_ne_nil _ _) (by decide) (by decide)]
    have hvalue : r.check ⟨true⟩ .integer v = [] := rfl
    exact ⟨.integer, rfl, by rw [hvalue]; exact nofun⟩
  have hnested :
      ErrorFree (r.validate ⟨true⟩ ⟨7⟩ (.mapping [("server", .mapping [(dotted keys, v)])])) := by
    rw [Registry.validate_eq_check rfl, Registry.errorFree_check_entry _ _ rfl,
      Registry.errorFree_checkEntry_of_property _ hp]
    exact hinner
  exact ⟨rfl, rfl, hreads, hnested,
    validate_flattened r ⟨true⟩ rfl hp hne hnames hunique hreads hnested⟩

/-- An open map and a declared name with a dot take what follows as it stands, and where the type
is unknown anything may follow. One key cannot say so. -/
theorem validate_flattened_as_it_stands :
    let inner := ((Builder.new.mapOf .string).2.bean "Inner").2
    let names := (inner.addProperty ⟨6⟩ ⟨"a.b", .string, none, none⟩).2
    let level := ((names.bean "Config").2.addProperty ⟨7⟩ ⟨"level", ⟨5⟩, none, none⟩).2
    let both := (level.addProperty ⟨7⟩ ⟨"inner", ⟨6⟩, none, none⟩).2
    let r := (both.addProperty ⟨7⟩ ⟨"extra", .unknown, none, none⟩).2.build
    let v : Node := .string "INFO"
    r.kind ⟨7⟩ = .bean ∧
      ∀ e ∈ [("level", ["com", "example"]), ("inner", ["a", "b"]), ("extra", ["a"])],
        ((r.descriptor ⟨7⟩).property? e.1).isSome ∧ isName e.1.toList ∧ e.2 ≠ [] ∧
          (∀ key ∈ e.2, isName key.toList) ∧
          (∀ q ∈ (r.descriptor ⟨7⟩).properties,
            Covers q.name (dotted (e.1 :: e.2)) → q.name = e.1) ∧
          ErrorFree (r.validate ⟨true⟩ ⟨7⟩ (.mapping [(e.1, .mapping [(dotted e.2, v)])])) ∧
          ¬ ErrorFree (r.validate ⟨true⟩ ⟨7⟩ (.mapping [(dotted (e.1 :: e.2), v)])) := by
  intro inner names level both r v
  have hbean : r.kind ⟨7⟩ = .bean := rfl
  refine ⟨hbean, ?_⟩
  intro e he
  have hcase : ((r.descriptor ⟨7⟩).property? e.1).isSome ∧ isName e.1.toList ∧ e.2 ≠ [] ∧
      (∀ key ∈ e.2, isName key.toList) ∧
      (∀ q ∈ (r.descriptor ⟨7⟩).properties,
        Covers q.name (dotted (e.1 :: e.2)) → q.name = e.1) ∧
      r.validate ⟨true⟩ ⟨7⟩ (.mapping [(e.1, .mapping [(dotted e.2, v)])]) = [] ∧
      (((r.descriptor ⟨7⟩).property? e.1).bind fun p =>
        (r.resolve p.type (e.2.map .key)).toOption) = none := by
    revert e
    decide
  obtain ⟨hsome, hname, hne, hnames, hunique, hnested, hresolve⟩ := hcase
  refine ⟨hsome, hname, hne, hnames, hunique, by rw [hnested]; exact nofun, ?_⟩
  obtain ⟨p, hp⟩ := Option.isSome_iff_exists.mp hsome
  rw [Registry.validate_eq_check rfl, Registry.errorFree_flattened v hbean hp hne hnames hunique]
  rintro ⟨u, hu, -⟩
  rw [hp, Option.bind_some, hu] at hresolve
  cases hresolve

end TypedYaml
