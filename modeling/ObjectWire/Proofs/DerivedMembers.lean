import Mathlib.Data.List.Forall2
import ObjectWire.Derive.Tables
import ObjectWire.Proofs.TypedAccessors
import ObjectWire.Proofs.StreamVersion
/-!
# Derived objects compile

The object derive lists every member of a struct twice: once in the member table of the
type's shape, once among its typed members. Both lists are made entry by entry from the same
fields and properties, so they have the same length and, at every index, name the same member
and promise the same accessors: a field reads, borrows mutably and stores; a property reads,
and stores when it names a setter; an ignored member does none of these. The names are the
fields' identifiers without `r#`, in declaration order, then the properties' names in the
order the struct's attributes declare them.

At run time a derived type is a declared schema, whose typed accessors serve its members
index by index. The compiled layout of each of its mapping lists is therefore always built:
every mapping's head finds, at its index, a typed accessor of its name that reads, and that
borrows mutably when the mapping is cascaded.

**Results.**
* `MemberTable.entries_aligned`: the two member lists of a derived object align.
* `MemberTable.ofItem_names`: the members are the named fields, then the properties.
* `compileLayout_declared_ok`: every mapping list of a declared type compiles.
* `derived_objects_compile`: both, for every struct the derive accepts, and every version.
-/

namespace ObjectWire
namespace Derive

/-- A member table entry and a typed entry describe one member: the same name and the same
accessors. -/
def Describes (e : InfoEntry) (e' : TypedEntry) : Prop :=
  e.name = e'.name ∧ e.access = e'.access

theorem FieldSpec.describes
    (f : FieldSpec) :
    Describes f.info f.typed := by
  unfold FieldSpec.info FieldSpec.typed
  split <;> exact ⟨rfl, rfl⟩

theorem PropertySpec.describes
    (p : PropertySpec) :
    Describes p.info p.typed := by
  unfold PropertySpec.info PropertySpec.typed
  split <;> exact ⟨rfl, rfl⟩

@[simp] theorem FieldSpec.info_name
    (f : FieldSpec) :
    f.info.name = f.label := by
  unfold FieldSpec.info
  split <;> rfl

@[simp] theorem PropertySpec.info_name
    (p : PropertySpec) :
    p.info.name = p.label.value := by
  unfold PropertySpec.info
  split <;> rfl

namespace MemberTable

theorem entries_aligned
    (t : MemberTable) :
    List.Forall₂ Describes t.infos t.typed := by
  unfold MemberTable.infos MemberTable.typed
  refine List.rel_append ?_ ?_
  · rw [List.forall₂_map_left_iff, List.forall₂_map_right_iff, List.forall₂_same]
    exact fun f _ => f.describes
  · rw [List.forall₂_map_left_iff, List.forall₂_map_right_iff, List.forall₂_same]
    exact fun p _ => p.describes

theorem infos_names
    (t : MemberTable) :
    t.infos.map InfoEntry.name = t.fields.map (·.label) ++ t.properties.map (·.label.value) := by
  simp [MemberTable.infos, Function.comp_def]

/-- The fields read from a struct's fields are its named ones, each labelled by its
identifier without `r#`. -/
theorem fieldSpecs_labels
    {fs : List Field} {specs : List FieldSpec} (h : fieldSpecs fs = .ok specs) :
    specs.map (·.label) =
      fs.filterMap fun f => f.name.map fun ident => String.ofList (stripRaw ident.toList) := by
  induction fs generalizing specs with
  | nil =>
      cases h
      rfl
  | cons f fs ih =>
      cases hname : f.name with
      | none =>
          simp only [fieldSpecs, hname] at h
          simp [hname, ih h]
      | some ident =>
          simp only [fieldSpecs, hname] at h
          cases hann : fieldAnnotations f.attrs with
          | error e =>
              rw [hann] at h
              cases h
          | ok ann =>
              rw [hann] at h
              cases hrest : fieldSpecs fs with
              | error e =>
                  simp [hrest] at h
                  cases h
              | ok rest =>
                  simp only [hrest] at h
                  cases h
                  simp [hname, ih hrest]

/-- A struct the derive accepts has named fields; its table holds their specs and the
properties its attributes declare. -/
theorem ofItem_ok
    {item : Item} {t : MemberTable} (h : ofItem item = .ok t) :
    ∃ fs, item.body = .struct (.named fs) ∧ fieldSpecs fs = .ok t.fields ∧
      structProperties item.attrs = .ok t.properties := by
  have hparams : (item.params != 0) = false := by
    cases hp : (item.params != 0)
    · rfl
    · simp [ofItem, hp, bind, Except.bind, throw, throwThe, MonadExceptOf.throw] at h
  cases hb : item.body with
  | struct fields =>
      cases fields with
      | named fs =>
          cases hfs : fieldSpecs fs with
          | error e => simp [ofItem, hparams, hb, hfs, bind, Except.bind] at h
          | ok fields =>
              cases hps : structProperties item.attrs with
              | error e => simp [ofItem, hparams, hb, hfs, hps, bind, Except.bind] at h
              | ok props =>
                  simp only [ofItem, hparams, hb, hfs, hps] at h
                  cases h
                  exact ⟨fs, rfl, hfs, rfl⟩
      | unnamed _ => simp [ofItem, hparams, hb, throw, throwThe, MonadExceptOf.throw] at h
      | unit => simp [ofItem, hparams, hb, throw, throwThe, MonadExceptOf.throw] at h
  | enum _ => simp [ofItem, hparams, hb, throw, throwThe, MonadExceptOf.throw] at h
  | union _ => simp [ofItem, hparams, hb, throw, throwThe, MonadExceptOf.throw] at h

theorem ofItem_names
    {item : Item} {t : MemberTable} (h : ofItem item = .ok t) :
    ∃ fs, item.body = .struct (.named fs) ∧ structProperties item.attrs = .ok t.properties ∧
      t.infos.map InfoEntry.name =
        fs.filterMap (fun f => f.name.map fun ident => String.ofList (stripRaw ident.toList)) ++
          t.properties.map (·.label.value) := by
  obtain ⟨fs, hbody, hfs, hps⟩ := ofItem_ok h
  refine ⟨fs, hbody, hps, ?_⟩
  rw [infos_names, fieldSpecs_labels hfs]

end MemberTable
end Derive

/-! ## Compiled layouts of declared types -/

theorem compileLayout_object_ok
    {cat : Catalog} {p : String} {s : ObjectSchema} (hs : cat.object? p = some s)
    (hmir : s.Mirrored) {l : MappingList} (hl : l.Rooted cat (.object p)) :
    ∃ acc, compileLayout cat (.object p) l = .ok acc ∧ acc.map (·.mapping) = l.mappings := by
  obtain ⟨acc, hacc, hmap, -⟩ :=
    mapM_compileAccessor_ok fun x hx => compileAccessor_ok hs hmir (hl.2 x hx)
  refine ⟨acc, ?_, hmap⟩
  simp only [compileLayout, hl.1, bne_self_eq_false, Bool.false_eq_true, if_false, hs,
    Option.map_some, Option.getD_some]
  exact hacc

theorem compileLayout_declared_ok
    {m m' : Machine} (hs : m.session.Sound) {p : String} {fields : List FieldDecl}
    {props : List PropertyDecl}
    (hdecl : m.session.catalog.object? p = some (ObjectSchema.declare p fields props))
    {v : Option Version} {l : MappingList} (h : (Run.mappingList (.object p) v).run m = .ok l m') :
    ∃ acc, compileLayout m.session.catalog (.object p) l = .ok acc ∧
      acc.map (·.mapping) = l.mappings :=
  compileLayout_object_ok hdecl (ObjectSchema.declare_mirrored p fields props)
    (Run.mappingList_run_rooted hs h)

open Derive in
/-- Derived objects always compile. For every struct the object derive accepts, the member
table of its shape and its typed members align: equally long, and at each index the same
name (the named fields without `r#`, then the properties) and the same accessors. And for a
declared type, every mapping list a sound serializer answers, for any options and version,
compiles to one typed accessor per mapping. -/
theorem derived_objects_compile :
    (∀ (item : Item) (t : MemberTable), MemberTable.ofItem item = .ok t →
      List.Forall₂ Describes t.infos t.typed ∧
        ∃ fs, item.body = .struct (.named fs) ∧ structProperties item.attrs = .ok t.properties ∧
          t.infos.map InfoEntry.name =
            fs.filterMap (fun f => f.name.map fun ident => String.ofList (stripRaw ident.toList)) ++
              t.properties.map (·.label.value)) ∧
    (∀ (m m' : Machine) (p : String) (fields : List FieldDecl) (props : List PropertyDecl)
        (v : Option Version) (l : MappingList),
      m.session.Sound → m.session.catalog.object? p = some (ObjectSchema.declare p fields props) →
      (Run.mappingList (.object p) v).run m = .ok l m' →
        ∃ acc, compileLayout m.session.catalog (.object p) l = .ok acc ∧
          acc.map (·.mapping) = l.mappings) :=
  ⟨fun _ t h => ⟨t.entries_aligned, MemberTable.ofItem_names h⟩,
    fun _ _ _ _ _ _ _ hs hdecl h => compileLayout_declared_ok hs hdecl h⟩

/-- A struct whose one field is spelled as a raw identifier. -/
def rawItem : Derive.Item :=
  { attrs := [], name := "Raw", params := 0
    body := .struct (.named [{ attrs := [], name := some "r#type", ty := [.ident "u8"] }]) }

/-- What the object derive reads from `rawItem`: one field, named without its `r#`. -/
def rawTable : Derive.MemberTable :=
  { owner := "Raw", properties := []
    fields := [{ ident := "r#type", label := "type", ty := [.ident "u8"], annotations := {} }] }

/-- The derive reads `Raw` into one member named `type`, described alike in both of its
lists; and the mapping list of the declared `Customer`, whose address cascades, compiles on
a fresh serializer. -/
theorem raw_struct_and_customer_compile :
    Derive.MemberTable.ofItem rawItem = .ok rawTable ∧
      List.Forall₂ Derive.Describes rawTable.infos rawTable.typed ∧
      rawTable.infos.map Derive.InfoEntry.name = ["type"] ∧
      ((Session.new Sample.catalog {}).run (Run.mappingList (Sample.obj "Customer") none)).1.toOption.map
        (fun l => (compileLayout Sample.catalog (Sample.obj "Customer") l).toBool) = some true := by
  have hitem : Derive.MemberTable.ofItem rawItem = .ok rawTable := rfl
  obtain ⟨haligned, fs, hbody, -, hnames⟩ := derived_objects_compile.1 _ _ hitem
  refine ⟨hitem, haligned, ?_, ?_⟩
  · rw [hnames]
    cases hbody
    decide
  · have hok : ((Session.new Sample.catalog {}).run
        (Run.mappingList (Sample.obj "Customer") none)).1.toBool = true := by
      decide +kernel
    generalize hrun : (Session.new Sample.catalog {}).run (Run.mappingList (Sample.obj "Customer") none) = r
      at hok ⊢
    obtain ⟨_ | l, m'⟩ := r
    · simp [Except.toBool] at hok
    · have hdecl : Sample.catalog.object? (Sample.path "Customer") = some Sample.customer := rfl
      obtain ⟨acc, hacc, -⟩ := derived_objects_compile.2 ((Session.new Sample.catalog {}).machine [] none)
        _ _ _ _ none l (Session.sound_new Sample.catalog {}) hdecl (Session.run_eq_ok hrun)
      have hcompiled : compileLayout Sample.catalog (Sample.obj "Customer") l = .ok acc := hacc
      simp [Except.toOption, hcompiled, Except.toBool]

end ObjectWire
