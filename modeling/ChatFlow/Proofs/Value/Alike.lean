import ChatFlow.Node.Call
import ChatFlow.Proofs.Value.Sharing

/-!
# Environments that differ in some variables

Two environments are alike but for some variables (`Env.AlikeBut`) if every other variable holds the
same, and no object in the variables that may differ is found anywhere else. What is written from
then on to other variables keeps them alike. The same holds while a value is beside the variables
(`Env.BesideAlike`), of which parts are taken one after the other: the parts can be shared, but with
the value and with other variables only (`BesideAlike.takeParts`).

An environment is alike to itself but for no variables exactly if it is rooted, so all of this says
of one environment that it stays rooted.
-/

namespace ChatFlow

namespace Object

variable {names : List String} {fields₁ fields₂ : Object} {key : String} {rest : Path}

/-- Whether two objects differ in no field but those of some names. -/
def AlikeBut (names : List String) (fields₁ fields₂ : Object) : Prop :=
  ∀ name ∉ names, fields₁.field? name = fields₂.field? name

namespace AlikeBut

theorem put (h : AlikeBut names fields₁ fields₂) (key : String) (value : Value) :
    AlikeBut names (fields₁.put key value) (fields₂.put key value) := by
  intro name hname
  by_cases hkey : key = name
  · subst hkey
    rw [field?_put_self, field?_put_self]
  · rw [field?_put_of_ne hkey, field?_put_of_ne hkey, h name hname]

/-- A change of one field that both have alike. -/
theorem map (h : AlikeBut names fields₁ fields₂) (key : String) (change : Value → Value) :
    AlikeBut names
      (fields₁.map fun (name, value) => (name, if name = key then change value else value))
      (fields₂.map fun (name, value) => (name, if name = key then change value else value)) := by
  intro name hname
  rw [field?_map_of_name, field?_map_of_name, h name hname]

/-- A change of the object at a place in both. -/
theorem changeObject (h : AlikeBut names fields₁ fields₂) (key : String) (content : Value)
    (place : Place) :
    ∃ after₁ after₂,
      (Value.object fields₁).changeObject (Object.put · key content) place = .object after₁ ∧
      (Value.object fields₂).changeObject (Object.put · key content) place = .object after₂ ∧
      AlikeBut names after₁ after₂ := by
  match place with
  | [] => exact ⟨_, _, rfl, rfl, h.put key content⟩
  | .field name :: rest => exact ⟨_, _, rfl, rfl, h.map name _⟩
  | .item index :: rest => exact ⟨_, _, rfl, rfl, h⟩

theorem holder_eq (h : AlikeBut names fields₁ fields₂) (hkey : key ∉ names) (rest : Path) :
    fields₁.holder (key :: rest) = fields₂.holder (key :: rest) := by
  cases rest with
  | nil => rfl
  | cons next rest => rw [holder, holder, h key hkey]

theorem writeAt (h : AlikeBut names fields₁ fields₂) (hkey : key ∉ names) (rest : Path)
    (value : Value) :
    AlikeBut names (fields₁.writeAt (key :: rest) value) (fields₂.writeAt (key :: rest) value) := by
  cases rest with
  | nil => exact h.put key value
  | cons next rest =>
    rw [Object.writeAt, Object.writeAt, h key hkey]
    exact h.put key _

end AlikeBut

/-- In an object, a path begins to change something at the object's own fields or below the field
that the path names first. -/
theorem holder_cons_cases (fields : Object) (key : String) (rest : Path) :
    (∃ below, fields.holder (key :: rest) = ([], key, below)) ∨
      ∃ place last below, fields.holder (key :: rest) = (.field key :: place, last, below) := by
  obtain ⟨front, last, below, hpath, hholder⟩ := fields.holder_spec (List.cons_ne_nil key rest)
  cases front with
  | nil =>
    obtain ⟨rfl, rfl⟩ := List.cons.inj hpath
    exact .inl ⟨rest, hholder⟩
  | cons first front =>
    obtain ⟨rfl, -⟩ := List.cons.inj hpath
    exact .inr ⟨Path.place front, last, below, hholder⟩

/-- Below an object, a path begins to change something where it does so in this object. -/
theorem holder_cons_object {fields inner : Object} (h : fields.field? key = some (.object inner))
    (hne : rest ≠ []) {place : Place} {last : String} {below : Path}
    (hholder : inner.holder rest = (place, last, below)) :
    fields.holder (key :: rest) = (.field key :: place, last, below) := by
  cases rest with
  | nil => exact absurd rfl hne
  | cons next rest =>
    rw [holder, h]
    simp only [hholder]

end Object

namespace Env

variable {names : List String} {env₁ env₂ : Env}

/-- Whether a place does not lie in the variables of some names. -/
def IsOutside (names : List String) (place : Place) : Prop :=
  ∃ step rest, place = step :: rest ∧ ∀ name ∈ names, step ≠ .field name

/-- Whether two environments differ in no variable but those of some names, and no object in these
variables is found anywhere else. -/
structure AlikeBut (names : List String) (env₁ env₂ : Env) : Prop where
  fields : Object.AlikeBut names env₁.vars env₂.vars
  shared : env₁.shared = env₂.shared
  outside : ∀ place, env₁.IsShared place → IsOutside names place

/-- Whether a place is in a value beside the variables, or in the variables, but not in those of
some names. -/
def IsOutsideOrGuest (names : List String) (place : Place) : Prop :=
  [.field guestField] <+: place ∨ ∃ inner, place = .field hostField :: inner ∧ IsOutside names inner

/-- Whether two environments that have a value beside the variables have the same value there, and
variables that are alike. -/
structure HostAlike (names : List String) (vars₁ vars₂ : Object) : Prop where
  host : ∃ inner₁ inner₂, vars₁.field? hostField = some (.object inner₁) ∧
    vars₂.field? hostField = some (.object inner₂) ∧ Object.AlikeBut names inner₁ inner₂
  guest : vars₁.field? guestField = vars₂.field? guestField

/-- Whether two environments that have a value beside the variables are alike. -/
structure BesideAlike (names : List String) (env₁ env₂ : Env) : Prop
    extends HostAlike names env₁.vars env₂.vars where
  shared : env₁.shared = env₂.shared
  outside : ∀ place, env₁.IsShared place → IsOutsideOrGuest names place

theorem IsOutside.append {place : Place} (h : IsOutside names place) (part : Place) :
    IsOutside names (place ++ part) := by
  obtain ⟨step, rest, rfl, hstep⟩ := h
  exact ⟨step, rest ++ part, rfl, hstep⟩

theorem IsOutsideOrGuest.append {place : Place} (h : IsOutsideOrGuest names place) (part : Place) :
    IsOutsideOrGuest names (place ++ part) := by
  rcases h with hguest | ⟨inner, rfl, hinner⟩
  · exact .inl (hguest.trans (List.prefix_append _ _))
  · exact .inr ⟨inner ++ part, rfl, hinner.append part⟩

theorem isOutside_field {key : String} (hkey : key ∉ names) (rest : Place) :
    IsOutside names (.field key :: rest) :=
  ⟨.field key, rest, rfl, fun _ hname heq => hkey (PlaceStep.field.inj heq ▸ hname)⟩

/-! ## Parts -/

/-- Where the part at a path of the value beside the variables is, if there is one. -/
def partOrigin? (guest : Value) (path : String) (part? : Option Value) : Option Place :=
  part?.map fun _ =>
    .field guestField :: if path.isEmpty then [] else guest.placeOf (Path.ofText path)

/-- Taking a part is assigning what is found of it. -/
theorem takePart_eq (env : Env) (name path : String) :
    env.takePart name path = ((env.vars.get guestField).resolve path).map fun part? =>
      env.assign (hostField :: Path.ofText name) (part?.getD .null)
        (partOrigin? (env.vars.get guestField) path part?) := by
  unfold takePart
  cases hresolve : (env.vars.get guestField).resolve path with
  | error fault => simp only [hresolve]; rfl
  | ok part? => cases part? <;> simp only [hresolve] <;> rfl

/-- A part is in the value beside the variables. -/
theorem partOrigin?_inGuest {guest : Value} {path : String} {part? : Option Value}
    {source : Place} (h : partOrigin? guest path part? = some source) :
    [.field guestField] <+: source := by
  obtain ⟨part, -, rfl⟩ := Option.map_eq_some_iff.1 h
  exact List.prefix_append [_] _

/-! ## Writing -/

namespace HostAlike

variable {vars₁ vars₂ : Object}

/-- Changing the object at a place below the two fields keeps them alike. -/
theorem changeObject (h : HostAlike names vars₁ vars₂) (key : String) (content : Value)
    {place : Place} (hne : place ≠ []) :
    ∃ after₁ after₂,
      (Value.object vars₁).changeObject (Object.put · key content) place = .object after₁ ∧
      (Value.object vars₂).changeObject (Object.put · key content) place = .object after₂ ∧
      HostAlike names after₁ after₂ := by
  obtain ⟨inner₁, inner₂, hinner₁, hinner₂, hinner⟩ := h.host
  match place with
  | [] => exact absurd rfl hne
  | .item index :: rest => exact ⟨_, _, rfl, rfl, h⟩
  | .field name :: rest =>
    refine ⟨_, _, rfl, rfl, ?_, ?_⟩
    · rw [Object.field?_map_of_name, Object.field?_map_of_name, hinner₁, hinner₂]
      split
      · obtain ⟨after₁, after₂, hafter₁, hafter₂, hafter⟩ := hinner.changeObject key content rest
        exact ⟨after₁, after₂, congrArg some hafter₁, congrArg some hafter₂, hafter⟩
      · exact ⟨inner₁, inner₂, rfl, rfl, hinner⟩
    · rw [Object.field?_map_of_name, Object.field?_map_of_name, h.guest]

theorem foldl_changeObject (h : HostAlike names vars₁ vars₂) (key : String) (content : Value)
    {holders : List Place} (hne : ∀ holder ∈ holders, holder ≠ []) :
    ∃ after₁ after₂,
      holders.foldl (fun tree holder => tree.changeObject (Object.put · key content) holder)
        (Value.object vars₁) = .object after₁ ∧
      holders.foldl (fun tree holder => tree.changeObject (Object.put · key content) holder)
        (Value.object vars₂) = .object after₂ ∧
      HostAlike names after₁ after₂ := by
  induction holders generalizing vars₁ vars₂ with
  | nil => exact ⟨_, _, rfl, rfl, h⟩
  | cons holder rest ih =>
    obtain ⟨after₁, after₂, hafter₁, hafter₂, hafter⟩ :=
      h.changeObject key content (hne holder List.mem_cons_self)
    rw [List.foldl_cons, List.foldl_cons, hafter₁, hafter₂]
    exact ih hafter fun other hother => hne other (List.mem_cons_of_mem _ hother)

theorem holder_eq (h : HostAlike names vars₁ vars₂) {key : String} (hkey : key ∉ names)
    (rest : Path) :
    vars₁.holder (hostField :: key :: rest) = vars₂.holder (hostField :: key :: rest) := by
  obtain ⟨inner₁, inner₂, hinner₁, hinner₂, hinner⟩ := h.host
  rw [Object.holder, Object.holder, hinner₁, hinner₂]
  simp only [hinner.holder_eq hkey rest]

theorem writeAt (h : HostAlike names vars₁ vars₂) {key : String} (hkey : key ∉ names)
    (rest : Path) (value : Value) :
    HostAlike names (vars₁.writeAt (hostField :: key :: rest) value)
      (vars₂.writeAt (hostField :: key :: rest) value) := by
  obtain ⟨inner₁, inner₂, hinner₁, hinner₂, hinner⟩ := h.host
  have hne : hostField ≠ guestField := by decide
  rw [Object.writeAt, Object.writeAt, hinner₁, hinner₂]
  refine ⟨⟨_, _, Object.field?_put_self _ _ _, Object.field?_put_self _ _ _,
    hinner.writeAt hkey rest value⟩, ?_⟩
  rw [Object.field?_put_of_ne hne, Object.field?_put_of_ne hne, h.guest]

end HostAlike

namespace BesideAlike

/-- Where assigning to another variable begins to change something. -/
theorem exists_holder (h : BesideAlike names env₁ env₂) {key : String} (hkey : key ∉ names)
    (rest : Path) :
    ∃ place last below, env₁.vars.holder (hostField :: key :: rest) =
        (.field hostField :: place, last, below) ∧ IsOutside names (place ++ [.field last]) := by
  obtain ⟨inner, -, hinner, -⟩ := h.host
  rcases Object.holder_cons_cases inner key rest with
    ⟨below, hholder⟩ | ⟨place, last, below, hholder⟩
  · exact ⟨[], key, below, Object.holder_cons_object hinner (List.cons_ne_nil _ _) hholder,
      isOutside_field hkey []⟩
  · exact ⟨.field key :: place, last, below,
      Object.holder_cons_object hinner (List.cons_ne_nil _ _) hholder, isOutside_field hkey _⟩

theorem placesOf_eq (h : BesideAlike names env₁ env₂) (place : Place) :
    env₁.placesOf place = env₂.placesOf place := by
  rw [placesOf, placesOf, h.shared]

/-- **Assigning to another variable keeps environments alike.** If the value comes from somewhere,
it is from the value beside the variables. -/
theorem assign (h : BesideAlike names env₁ env₂) {key : String} (hkey : key ∉ names) (rest : Path)
    (value : Value) {origin : Option Place}
    (horigin : ∀ source, origin = some source → [.field guestField] <+: source) :
    BesideAlike names (env₁.assign (hostField :: key :: rest) value origin)
      (env₂.assign (hostField :: key :: rest) value origin) := by
  obtain ⟨place, last, below, hholder, hplace⟩ := h.exists_holder hkey rest
  have hholder₂ := (h.holder_eq hkey rest).symm.trans hholder
  have houtside : ∀ there, (env₁.assign (hostField :: key :: rest) value origin).IsShared there →
      IsOutsideOrGuest names there := by
    intro there hthere
    rcases hthere.of_assign hholder with hold | ⟨holder, hmem, part, rfl, -⟩ | ⟨source, hs, hfrom⟩
    · exact h.outside there hold
    · rcases mem_placesOf hmem with rfl | hshared
      · refine .inr ⟨place ++ .field last :: part, rfl, ?_⟩
        rw [List.append_cons]
        exact hplace.append part
      · exact (h.outside holder hshared).append _
    · exact .inl ((horigin source hs).trans hfrom)
  have hne : ∀ holder ∈ env₂.placesOf (.field hostField :: place), holder ≠ [] := by
    intro holder hmem
    rw [← h.placesOf_eq] at hmem
    rcases mem_placesOf hmem with rfl | hshared
    · exact List.cons_ne_nil _ _
    · rintro rfl
      rcases h.outside [] hshared with hguest | ⟨inner, hinner, -⟩
      · exact List.cons_ne_nil _ _ (List.prefix_nil.1 hguest)
      · exact List.cons_ne_nil _ _ hinner.symm
  suffices hsame : HostAlike names (env₁.assign (hostField :: key :: rest) value origin).vars
        (env₂.assign (hostField :: key :: rest) value origin).vars ∧
      (env₁.assign (hostField :: key :: rest) value origin).shared =
        (env₂.assign (hostField :: key :: rest) value origin).shared from
    ⟨hsame.1, hsame.2, houtside⟩
  clear houtside
  unfold Env.assign
  rw [h.shared]
  split
  · exact ⟨h.writeAt hkey rest value, rfl⟩
  · unfold assignShared
    rw [hholder, hholder₂]
    obtain ⟨after₁, after₂, hafter₁, hafter₂, hafter⟩ :=
      h.foldl_changeObject last (value.nested below) hne
    simp only [h.placesOf_eq, h.shared, hafter₁, hafter₂]
    exact ⟨hafter, trivial⟩

/-- Taking a part comes to the same in environments that are alike, and keeps them alike. -/
theorem takePart (h : BesideAlike names env₁ env₂) {name : String}
    (hname : firstSegment name ∉ names) (path : String) :
    (∃ fault, env₁.takePart name path = .error fault ∧ env₂.takePart name path = .error fault) ∨
      ∃ after₁ after₂, env₁.takePart name path = .ok after₁ ∧
        env₂.takePart name path = .ok after₂ ∧ BesideAlike names after₁ after₂ := by
  have hguest : env₂.vars.get guestField = env₁.vars.get guestField := by
    rw [Object.get, Object.get, h.guest]
  obtain ⟨rest, hsegments, -⟩ := Path.ofText_spec name
  rw [takePart_eq, takePart_eq, hguest, hsegments]
  cases (env₁.vars.get guestField).resolve path with
  | error fault => exact .inl ⟨fault, rfl, rfl⟩
  | ok part? =>
    refine .inr ⟨_, _, rfl, rfl, h.assign hname rest _ fun source hsource => ?_⟩
    exact partOrigin?_inGuest hsource

/-- **Taking parts** comes to the same in environments that are alike, and keeps them alike. -/
theorem takeParts (h : BesideAlike names env₁ env₂) {mappings : List ResponseMapping}
    (hnames : ∀ mapping ∈ mappings, firstSegment mapping.variableName ∉ names) :
    (ChatFlow.takeParts mappings env₁).1 = (ChatFlow.takeParts mappings env₂).1 ∧
      BesideAlike names (ChatFlow.takeParts mappings env₁).2
        (ChatFlow.takeParts mappings env₂).2 := by
  induction mappings generalizing env₁ env₂ with
  | nil => exact ⟨rfl, h⟩
  | cons mapping rest ih =>
    have hrest := fun other hother => hnames other (List.mem_cons_of_mem _ hother)
    unfold ChatFlow.takeParts
    rcases h.takePart (hnames mapping List.mem_cons_self) mapping.path with
      ⟨fault, hone, htwo⟩ | ⟨after₁, after₂, hone, htwo, hafter⟩
    · rw [hone, htwo]
      exact ⟨rfl, h⟩
    · rw [hone, htwo]
      exact ih hafter hrest

end BesideAlike

/-! ## Beside the variables -/

/-- The objects that are shared in variables beside a value are those that were shared before. -/
theorem isShared_beside_iff {env : Env} {guest : Value} {place : Place} :
    (env.beside guest).IsShared place ↔
      ∃ inner, place = .field hostField :: inner ∧ env.IsShared inner := by
  constructor
  · rintro ⟨group, hgroup, hplace⟩
    obtain ⟨old, hold, rfl⟩ := List.mem_map.1 hgroup
    obtain ⟨inner, hinner, rfl⟩ := List.mem_map.1 hplace
    exact ⟨inner, rfl, old, hold, hinner⟩
  · rintro ⟨inner, rfl, group, hgroup, hinner⟩
    exact ⟨_, List.mem_map_of_mem hgroup, List.mem_map_of_mem hinner⟩

theorem field?_host_beside (env : Env) (guest : Value) :
    (env.beside guest).vars.field? hostField = some (.object env.vars) := rfl

/-- Without the value beside them, the variables are those in their field. -/
theorem vars_withoutGuest {env : Env} {inner : Object}
    (h : (env.vars.field? hostField).bind Value.object? = some inner) :
    env.withoutGuest.vars = inner := by
  rw [withoutGuest, Object.get]
  cases hhost : env.vars.field? hostField with
  | none =>
    rw [hhost] at h
    cases h
  | some value =>
    rw [hhost] at h
    show value.object?.getD [] = inner
    rw [show value.object? = some inner from h, Option.getD_some]

namespace AlikeBut

theorem beside (h : AlikeBut names env₁ env₂) (guest : Value) :
    BesideAlike names (env₁.beside guest) (env₂.beside guest) where
  host := ⟨env₁.vars, env₂.vars, field?_host_beside _ _, field?_host_beside _ _, h.fields⟩
  guest := rfl
  shared := by rw [Env.beside, Env.beside, h.shared]
  outside := by
    intro place hplace
    obtain ⟨inner, rfl, hinner⟩ := isShared_beside_iff.1 hplace
    exact .inr ⟨inner, rfl, h.outside inner hinner⟩

/-- The variables of environments that are alike are no part of themselves. -/
theorem isRooted (h : AlikeBut names env₁ env₂) : env₁.IsRooted ∧ env₂.IsRooted := by
  have hroot : env₁.IsRooted := by
    intro hshared
    obtain ⟨step, rest, hplace, -⟩ := h.outside [] hshared
    exact List.cons_ne_nil _ _ hplace.symm
  refine ⟨hroot, ?_⟩
  rw [IsRooted, IsShared, ← h.shared]
  exact hroot

end AlikeBut

theorem BesideAlike.withoutGuest (h : BesideAlike names env₁ env₂) :
    AlikeBut names env₁.withoutGuest env₂.withoutGuest where
  fields := by
    obtain ⟨inner₁, inner₂, hinner₁, hinner₂, hinner⟩ := h.host
    have hvars₁ : env₁.withoutGuest.vars = inner₁ := vars_withoutGuest (by rw [hinner₁]; rfl)
    have hvars₂ : env₂.withoutGuest.vars = inner₂ := vars_withoutGuest (by rw [hinner₂]; rfl)
    rwa [hvars₁, hvars₂]
  shared := by rw [Env.withoutGuest, Env.withoutGuest, h.shared]
  outside := by
    rintro place ⟨group, hgroup, hplace⟩
    obtain ⟨kept, hkept, rfl⟩ := List.mem_map.1 hgroup
    obtain ⟨full, hfull, rfl⟩ := List.mem_map.1 hplace
    obtain ⟨hshared, hstays⟩ := mem_dropUnder ⟨kept, hkept, hfull⟩
    rcases h.outside full hshared with hguest | ⟨inner, rfl, hinner⟩
    · exact absurd hguest (hstays _ List.mem_cons_self)
    · exact hinner

theorem alikeBut_ofVariables {vars₁ vars₂ : Object} (h : Object.AlikeBut names vars₁ vars₂) :
    AlikeBut names (ofVariables vars₁) (ofVariables vars₂) :=
  ⟨h, rfl, fun _ hplace => absurd hplace (not_isShared_of_nil rfl _)⟩

/-- An environment whose variables are no part of themselves is alike to itself. -/
theorem IsRooted.alikeBut {env : Env} (h : env.IsRooted) : AlikeBut [] env env where
  fields _ _ := rfl
  shared := rfl
  outside place hplace := by
    cases place with
    | nil => exact absurd hplace h
    | cons step rest => exact ⟨step, rest, rfl, fun _ hname => absurd hname List.not_mem_nil⟩

/-- **Taking parts of an answer** leaves the variables no part of themselves. -/
theorem IsRooted.takeParts {env : Env} (h : env.IsRooted) (mappings : List ResponseMapping)
    (guest : Value) : (ChatFlow.takeParts mappings (env.beside guest)).2.withoutGuest.IsRooted :=
  ((h.alikeBut.beside guest).takeParts fun _ _ => List.not_mem_nil).2.withoutGuest.isRooted.1

end Env

end ChatFlow
