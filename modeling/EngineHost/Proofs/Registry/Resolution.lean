import EngineHost.Proofs.Text.Lines
import EngineHost.Registry.Basic

/-!
# What a reference resolves to

A reference resolves to an engine if it has the two parts of its form, the module it names can be
imported, a walk along the names of its path arrives at an object, and that object offers the engine:
itself if it can be called, its attribute `compile` if not. Loading finds exactly the engines that a
reference resolves to. If there is none, the failure says at which of these points the way ended.

Main facts: `dottedNames_eq_iff`, `splitReference?_eq_some_iff`, `load_eq_ok_iff`, `load_eq_error_iff`,
`load_resolves`.
-/

namespace EngineHost

/-! ## The form of a reference -/

/-- The reference has a module's name without a colon, a colon and a path, and neither of the two is
empty. -/
structure IsReference (reference moduleName path : String) : Prop where
  joined : moduleName ++ ":" ++ path = reference
  noColon : ':' ∉ moduleName.toList
  moduleName_ne_empty : moduleName ≠ ""
  path_ne_empty : path ≠ ""

theorem toList_reference (moduleName path : String) :
    (moduleName ++ ":" ++ path).toList = moduleName.toList ++ ':' :: path.toList := by
  simp

theorem splitReference?_of_not_mem {reference : String} (h : ':' ∉ reference.toList) :
    splitReference? reference = none := by
  have hdrop : reference.toList.dropWhile (· != ':') = [] := by
    rw [List.dropWhile_eq_nil_iff]
    intro c hc
    exact bne_iff_ne.mpr fun heq => h (heq ▸ hc)
  simp only [splitReference?, hdrop]

theorem splitReference?_join {moduleName : String} (h : ':' ∉ moduleName.toList) (path : String) :
    splitReference? (moduleName ++ ":" ++ path) =
      if moduleName = "" ∨ path = "" then none else some (moduleName, path) := by
  have hmodule : ∀ c ∈ moduleName.toList, (c != ':') = true := by
    intro c hc
    exact bne_iff_ne.mpr fun heq => h (heq ▸ hc)
  have htake : (moduleName ++ ":" ++ path).toList.takeWhile (· != ':') = moduleName.toList := by
    rw [toList_reference, List.takeWhile_append_of_pos hmodule]
    simp
  have hdrop : (moduleName ++ ":" ++ path).toList.dropWhile (· != ':') = ':' :: path.toList := by
    rw [toList_reference, List.dropWhile_append_of_pos hmodule]
    simp
  simp only [splitReference?, htake, hdrop, Bool.or_eq_true, List.isEmpty_iff,
    String.toList_eq_nil_iff, String.ofList_toList]

theorem splitReference?_eq_some_iff {reference moduleName path : String} :
    splitReference? reference = some (moduleName, path) ↔
      IsReference reference moduleName path := by
  constructor
  · intro h
    by_cases hcolon : ':' ∈ reference.toList
    · obtain ⟨before, after, hchars, hbefore⟩ := List.eq_append_cons_of_mem hcolon
      have hjoined : String.ofList before ++ ":" ++ String.ofList after = reference := by
        simp [← String.toList_inj, hchars]
      rw [← String.toList_ofList (l := before)] at hbefore
      rw [← hjoined, splitReference?_join hbefore] at h
      split at h
      next => contradiction
      next hparts =>
        cases h
        exact ⟨hjoined, hbefore, mt .inl hparts, mt .inr hparts⟩
    · rw [splitReference?_of_not_mem hcolon] at h
      contradiction
  · rintro ⟨rfl, hcolon, hmodule, hpath⟩
    rw [splitReference?_join hcolon, if_neg (not_or.mpr ⟨hmodule, hpath⟩)]

/-- The names are what stands between the dots of the path. They may be empty. -/
structure IsDotted (names : List String) (path : String) : Prop where
  joined : ".".intercalate names = path
  noDot : ∀ name ∈ names, '.' ∉ name.toList
  ne_nil : names ≠ []

theorem isDotted_dottedNames (path : String) : IsDotted (dottedNames path) path := by
  have hdot : ".".toList = ['.'] := rfl
  have hid : String.toList ∘ String.ofList = id := by
    funext s
    exact String.toList_ofList
  constructor
  · rw [← String.toList_inj, String.toList_intercalate, dottedNames, List.map_map, hdot, hid,
      List.map_id, Text.cut_eq_splitOnP]
    exact List.intercalate_splitOn '.'
  · intro name hname hmem
    obtain ⟨piece, hpiece, rfl⟩ := List.mem_map.mp hname
    rw [String.toList_ofList] at hmem
    have hsep := Text.not_isSep_of_mem_cut hpiece hmem
    contradiction
  · rw [dottedNames, Ne, List.map_eq_nil_iff]
    exact Text.cut_ne_nil _ _

theorem dottedNames_eq_iff {names : List String} {path : String} :
    dottedNames path = names ↔ IsDotted names path := by
  have hdot : ".".toList = ['.'] := rfl
  constructor
  · rintro rfl
    exact isDotted_dottedNames path
  · rintro ⟨rfl, hnames, hne⟩
    rw [dottedNames, String.toList_intercalate, hdot, Text.map_cut_intercalate hnames hne]

theorem IsDotted.append {names : List String} {path name : String} (h : IsDotted names path)
    (hname : '.' ∉ name.toList) : IsDotted (names ++ [name]) (path ++ ("." ++ name)) := by
  obtain ⟨rfl, hnames, hne⟩ := h
  refine ⟨?_, ?_, by simp⟩
  · rw [String.intercalate_append_of_ne_nil hne (List.cons_ne_nil name []),
      String.intercalate_singleton, String.append_assoc]
  · intro other hother
    obtain hother | hother := List.mem_append.mp hother
    · exact hnames other hother
    · rwa [List.mem_singleton.mp hother]

theorem IsReference.append {reference moduleName path : String}
    (h : IsReference reference moduleName path) (more : String) :
    IsReference (reference ++ more) moduleName (path ++ more) := by
  obtain ⟨rfl, hcolon, hmodule, hpath⟩ := h
  exact ⟨String.append_assoc.symm, hcolon, hmodule, by simp [hpath]⟩

theorem IsReference.ne_empty {reference moduleName path : String}
    (h : IsReference reference moduleName path) : reference ≠ "" := by
  obtain ⟨rfl, -⟩ := h
  simp

namespace ModuleSpace

variable {ω : Type} {space : ModuleSpace ω}

/-! ## The way to an engine -/

/-- From one object to another along the names, taking the attribute of each name. -/
inductive Walks (space : ModuleSpace ω) : ω → List String → ω → Prop
  | arrived (object : ω) : Walks space object [] object
  | step {object next target : ω} {name : String} {names : List String}
      (hstep : space.attribute? object name = some next) (hrest : Walks space next names target) :
      Walks space object (name :: names) target

theorem follow?_eq_some_iff {object target : ω} {names : List String} :
    space.follow? object names = some target ↔ space.Walks object names target := by
  constructor
  · intro h
    induction names generalizing object with
    | nil =>
      cases h
      exact .arrived target
    | cons name names ih =>
      obtain ⟨next, hstep, hrest⟩ := Option.bind_eq_some_iff.mp h
      exact .step hstep (ih hrest)
  · intro h
    induction h with
    | arrived object => rfl
    | step hstep hrest ih => rw [follow?, hstep, Option.bind_some, ih]

theorem Walks.append {object next target : ω} {names : List String} {name : String}
    (h : space.Walks object names next) (hlast : space.attribute? next name = some target) :
    space.Walks object (names ++ [name]) target := by
  induction h with
  | arrived object => exact .step hlast (.arrived target)
  | step hstep hrest ih => exact .step hstep (ih hlast)

/-- The engine that an object has to offer: itself, or else its attribute `compile`. There is no
further way. -/
inductive Offers (space : ModuleSpace ω) : ω → ω → Prop
  | itself {object : ω} (h : space.isCallable object = true) : Offers space object object
  | compile {object engine : ω} (hobject : space.isCallable object = false)
      (hattribute : space.attribute? object "compile" = some engine)
      (hengine : space.isCallable engine = true) : Offers space object engine

theorem callable?_eq_some_iff {object engine : ω} :
    space.callable? object = some engine ↔ space.Offers object engine := by
  constructor
  · intro h
    unfold callable? at h
    split at h
    next hobject =>
      cases h
      exact .itself hobject
    next hobject =>
      obtain ⟨hattribute, hengine⟩ := Option.filter_eq_some_iff.mp h
      exact .compile (Bool.eq_false_iff.mpr hobject) hattribute hengine
  · rintro (hobject | ⟨hobject, hattribute, hengine⟩)
    · rw [callable?, if_pos hobject]
    · rw [callable?, if_neg (Bool.eq_false_iff.mp hobject), hattribute, Option.filter_some,
        if_pos hengine]

/-- The reference leads to the object, engine or not. -/
def LeadsTo (space : ModuleSpace ω) (reference : String) (object : ω) : Prop :=
  ∃ moduleName path names module, IsReference reference moduleName path ∧ IsDotted names path ∧
    space.importModule moduleName = .ok module ∧ space.Walks module names object

/-- The engine is what the object at the end of the reference offers. -/
inductive Resolves (space : ModuleSpace ω) : Option String → ω → Prop
  | offered {reference : String} {object engine : ω} (hlead : space.LeadsTo reference object)
      (hoffer : space.Offers object engine) : Resolves space (some reference) engine

/-- The ways not to come to an engine, each with the failure it ends in. -/
inductive Fails (space : ModuleSpace ω) : Option String → LoadFailure → Prop
  | absent : Fails space none (.refused .unconfigured)
  | empty : Fails space (some "") (.refused .unconfigured)
  | malformed {reference : String} (hne : reference ≠ "")
      (h : ∀ moduleName path, ¬ IsReference reference moduleName path) :
      Fails space (some reference) (.refused (.malformed reference))
  | importFailed {reference moduleName path : String} {s : Signal}
      (h : IsReference reference moduleName path)
      (himport : space.importModule moduleName = .error s) (hordinary : s.isOrdinary = true) :
      Fails space (some reference) (.refused (.importFailed moduleName s.text))
  | interrupted {reference moduleName path : String} {s : Signal}
      (h : IsReference reference moduleName path)
      (himport : space.importModule moduleName = .error s) (hordinary : s.isOrdinary = false) :
      Fails space (some reference) (.interrupted s)
  | noAttribute {reference moduleName path : String} {names : List String} {module : ω}
      (h : IsReference reference moduleName path) (hpath : IsDotted names path)
      (himport : space.importModule moduleName = .ok module)
      (hwalk : ∀ object, ¬ space.Walks module names object) :
      Fails space (some reference) (.refused (.noAttribute moduleName path))
  | notCallable {reference : String} {object : ω} (hlead : space.LeadsTo reference object)
      (hoffer : ∀ engine, ¬ space.Offers object engine) :
      Fails space (some reference) (.refused (.notCallable reference))

/-! ## Loading -/

theorem load_of_not_isReference {reference : String} (hne : reference ≠ "")
    (h : ∀ moduleName path, ¬ IsReference reference moduleName path) :
    space.load (some reference) = .error (.refused (.malformed reference)) := by
  have hsplit : splitReference? reference = none := by
    cases hparts : splitReference? reference with
    | none => rfl
    | some parts => exact absurd (splitReference?_eq_some_iff.mp hparts) (h parts.1 parts.2)
  unfold load
  split
  next => contradiction
  next heq => exact absurd (Option.some.inj heq) hne
  next heq =>
    cases heq
    rw [hsplit]

theorem load_of_isReference {reference moduleName path : String}
    (h : IsReference reference moduleName path) :
    space.load (some reference) =
      (space.importOrRefuse moduleName).bind fun module =>
        match space.follow? module (dottedNames path) with
        | none => .error (.refused (.noAttribute moduleName path))
        | some object =>
          match space.callable? object with
          | none => .error (.refused (.notCallable reference))
          | some engine => .ok engine := by
  have hsplit := splitReference?_eq_some_iff.mpr h
  unfold load
  split
  next => contradiction
  next heq => exact absurd (Option.some.inj heq) h.ne_empty
  next heq =>
    cases heq
    split
    next hnone =>
      rw [hsplit] at hnone
      contradiction
    next hsome =>
      rw [hsplit] at hsome
      cases hsome
      rfl

theorem load_of_leadsTo {reference : String} {object : ω} (h : space.LeadsTo reference object) :
    space.load (some reference) =
      match space.callable? object with
      | none => .error (.refused (.notCallable reference))
      | some engine => .ok engine := by
  obtain ⟨moduleName, path, names, module, hreference, hpath, himport, hwalk⟩ := h
  rw [load_of_isReference hreference, importOrRefuse, himport, dottedNames_eq_iff.mpr hpath]
  simp only [Except.bind, follow?_eq_some_iff.mpr hwalk]

theorem load_eq_ok_iff_offers {reference : String} {object engine : ω}
    (h : space.LeadsTo reference object) :
    space.load (some reference) = .ok engine ↔ space.Offers object engine := by
  rw [load_of_leadsTo h, ← callable?_eq_some_iff]
  cases space.callable? object <;> simp

theorem load_of_resolves {reference : Option String} {engine : ω}
    (h : space.Resolves reference engine) : space.load reference = .ok engine := by
  obtain ⟨hlead, hoffer⟩ := h
  exact (load_eq_ok_iff_offers hlead).mpr hoffer

theorem load_of_fails {reference : Option String} {failure : LoadFailure}
    (h : space.Fails reference failure) : space.load reference = .error failure := by
  cases h with
  | absent => rfl
  | empty => rfl
  | malformed hne h => exact load_of_not_isReference hne h
  | importFailed h himport hordinary =>
    rw [load_of_isReference h, importOrRefuse, himport]
    simp only [hordinary, if_true, Except.bind]
  | interrupted h himport hordinary =>
    rw [load_of_isReference h, importOrRefuse, himport]
    simp only [hordinary, Bool.false_eq_true, if_false, Except.bind]
  | @noAttribute _ moduleName path names module h hpath himport hwalk =>
    have hfollow : space.follow? module names = none := by
      rw [Option.eq_none_iff_forall_not_mem]
      exact fun object hobject => hwalk object (follow?_eq_some_iff.mp hobject)
    rw [load_of_isReference h, importOrRefuse, himport, dottedNames_eq_iff.mpr hpath]
    simp only [Except.bind, hfollow]
  | @notCallable _ object hlead hoffer =>
    have hcallable : space.callable? object = none := by
      rw [Option.eq_none_iff_forall_not_mem]
      exact fun engine hengine => hoffer engine (callable?_eq_some_iff.mp hengine)
    rw [load_of_leadsTo hlead, hcallable]

/-- There is no third way. -/
theorem resolves_or_fails (space : ModuleSpace ω) (reference : Option String) :
    (∃ engine, space.Resolves reference engine) ∨ ∃ failure, space.Fails reference failure := by
  cases reference with
  | none => exact .inr ⟨_, .absent⟩
  | some reference =>
    by_cases hempty : reference = ""
    · subst hempty
      exact .inr ⟨_, .empty⟩
    by_cases hform : ∃ moduleName path, IsReference reference moduleName path
    · obtain ⟨moduleName, path, hreference⟩ := hform
      cases himport : space.importModule moduleName with
      | error s =>
        cases hordinary : s.isOrdinary with
        | true => exact .inr ⟨_, .importFailed hreference himport hordinary⟩
        | false => exact .inr ⟨_, .interrupted hreference himport hordinary⟩
      | ok module =>
        have hpath := isDotted_dottedNames path
        by_cases hwalk : ∃ object, space.Walks module (dottedNames path) object
        · obtain ⟨object, hwalk⟩ := hwalk
          have hlead : space.LeadsTo reference object :=
            ⟨moduleName, path, _, module, hreference, hpath, himport, hwalk⟩
          by_cases hoffer : ∃ engine, space.Offers object engine
          · obtain ⟨engine, hoffer⟩ := hoffer
            exact .inl ⟨engine, .offered hlead hoffer⟩
          · exact .inr ⟨_, .notCallable hlead (not_exists.mp hoffer)⟩
        · exact .inr ⟨_, .noAttribute hreference hpath himport (not_exists.mp hwalk)⟩
    · refine .inr ⟨_, .malformed hempty fun moduleName path hreference => ?_⟩
      exact hform ⟨moduleName, path, hreference⟩

theorem load_eq_ok_iff {reference : Option String} {engine : ω} :
    space.load reference = .ok engine ↔ space.Resolves reference engine := by
  constructor
  · intro h
    obtain ⟨other, hresolves⟩ | ⟨failure, hfails⟩ := space.resolves_or_fails reference
    · have hother := load_of_resolves hresolves
      rw [h] at hother
      cases hother
      exact hresolves
    · rw [load_of_fails hfails] at h
      contradiction
  · exact load_of_resolves

theorem load_eq_error_iff {reference : Option String} {failure : LoadFailure} :
    space.load reference = .error failure ↔ space.Fails reference failure := by
  constructor
  · intro h
    obtain ⟨engine, hresolves⟩ | ⟨other, hfails⟩ := space.resolves_or_fails reference
    · rw [load_of_resolves hresolves] at h
      contradiction
    · have hother := load_of_fails hfails
      rw [h] at hother
      cases hother
      exact hfails
  · exact load_of_fails

/-- Nothing but a refusal comes of a reference that resolves to nothing, if imports raise ordinary
signals only. -/
theorem exists_refused (hordinary : ∀ moduleName s, space.importModule moduleName = .error s →
      s.isOrdinary = true) {reference : Option String}
    (h : ∀ engine, ¬ space.Resolves reference engine) :
    ∃ e, space.Fails reference (.refused e) := by
  obtain ⟨engine, hresolves⟩ | ⟨failure, hfails⟩ := space.resolves_or_fails reference
  · exact absurd hresolves (h engine)
  · cases failure with
    | refused e => exact ⟨e, hfails⟩
    | interrupted s =>
      cases hfails with
      | interrupted hreference himport hinterrupts =>
        rw [hordinary _ s himport] at hinterrupts
        contradiction

/-- The attribute is at the end of the reference made longer by its name. -/
theorem LeadsTo.append {reference name : String} {object inner : ω}
    (h : space.LeadsTo reference object) (hname : '.' ∉ name.toList)
    (hattribute : space.attribute? object name = some inner) :
    space.LeadsTo (reference ++ ("." ++ name)) inner := by
  obtain ⟨moduleName, path, names, module, hreference, hpath, himport, hwalk⟩ := h
  exact ⟨moduleName, path ++ ("." ++ name), names ++ [name], module, hreference.append _,
    hpath.append hname, himport, hwalk.append hattribute⟩

/-- Loading gives an engine exactly if the reference has its two parts, the module can be imported, the
walk along the path arrives at an object, and that object can be called or has an attribute `compile`
that can; and then it gives that engine. Otherwise, if imports raise ordinary signals only, it refuses
the reference for the reason it fails. The attribute is tried for the last object only, and once: an
engine found through it is the engine of the longer reference that names it, and no attribute of an
attribute is tried. -/
theorem load_resolves (space : ModuleSpace ω) :
    (∀ reference engine, space.load reference = .ok engine ↔ space.Resolves reference engine) ∧
    ((∀ moduleName s, space.importModule moduleName = .error s → s.isOrdinary = true) →
      ∀ reference, (∀ engine, ¬ space.Resolves reference engine) →
        ∃ e, space.load reference = .error (.refused e) ∧ space.Fails reference (.refused e)) ∧
    ∀ reference object, space.LeadsTo reference object → space.isCallable object = false →
      (∀ engine, space.load (some reference) = .ok engine →
        space.load (some (reference ++ ".compile")) = .ok engine) ∧
      ∀ inner, space.attribute? object "compile" = some inner → space.isCallable inner = false →
        space.load (some reference) = .error (.refused (.notCallable reference)) := by
  refine ⟨fun reference engine => load_eq_ok_iff, ?_, ?_⟩
  · intro hordinary reference h
    obtain ⟨e, hfails⟩ := exists_refused hordinary h
    exact ⟨e, load_of_fails hfails, hfails⟩
  · intro reference object hlead hobject
    constructor
    · intro engine hload
      obtain hitself | ⟨-, hattribute, hengine⟩ := (load_eq_ok_iff_offers hlead).mp hload
      · rw [hobject] at hitself
        contradiction
      · exact load_of_resolves (.offered (hlead.append (by decide) hattribute) (.itself hengine))
    · intro inner hinner hnot
      refine load_of_fails (.notCallable hlead ?_)
      rintro engine (hitself | ⟨-, hattribute, hengine⟩)
      · rw [hobject] at hitself
        contradiction
      · rw [hinner] at hattribute
        cases hattribute
        rw [hnot] at hengine
        contradiction

/-- The names between dots may be empty, and a group below a `compile` that cannot be called is of no
use. -/
example :
    let registry : Registry :=
      [("m", .defined [("", .group [("e", .engine [])]),
        ("a", .group [("compile", .group [("compile", .engine [])])])])]
    (registry.space.load (some "m:.e")).isOk = true ∧
      (registry.space.load (some "m:a")).isOk = false ∧
      (registry.space.load (some "m:a.compile")).isOk = true := by
  decide +kernel

end ModuleSpace

end EngineHost
