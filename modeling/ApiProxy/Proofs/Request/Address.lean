import ApiProxy.Proofs.Request.Form
import ApiProxy.Proofs.Script.Wiring

/-! The URL of a request. A function puts the values of its path parameters into the URL, each encoded as a component
of its own, and appends the entries of its query behind a question mark; literal text of the template is passed on
as it is. The arguments are told by the positions of the parameters, so the entries are those of the action. -/

namespace ApiProxy

/-- What a function is given for a parameter: a scalar by the text that it is shown as. -/
inductive Argument where
  | absent
  | scalar (text : String)
  | list (texts : List String)

namespace Argument

/-- The text that an argument is shown as. -/
def text : Argument → String
  | absent => "undefined"
  | scalar text => text
  | list texts => ",".intercalate texts

/-- The values that an argument has for a query. -/
def values : Argument → List String
  | absent => []
  | scalar text => [text]
  | list texts => texts

/-- Arguments that a query parameter can be given, by whether it is a list. -/
inductive Fits : Argument → Bool → Prop where
  | absent (isList : Bool) : Fits absent isList
  | scalar (text : String) : Fits (scalar text) false
  | list (texts : List String) : Fits (list texts) true

end Argument

/-- Arguments for the parameters of an action, one for each. -/
structure Action.Fits (types : TypeMap) (action : Action) (arguments : List Argument) : Prop where
  length : arguments.length = action.parameters.length
  query : ∀ (position : Nat) (parameter : Parameter) (argument : Argument) (isList : Bool),
    action.parameters[position]? = some parameter → parameter.binding = .query →
    types.isArray parameter.typeId = .ok isList → arguments[position]? = some argument → argument.Fits isList

/-- The values of a query parameter, each under the name of the parameter. -/
def Parameter.queryEntries (parameter : Parameter) (argument : Argument) : List (String × String) :=
  if parameter.binding = .query then argument.values.map (Prod.mk parameter.name) else []

/-- The entries that the arguments of an action make, in the order of its parameters. -/
def Action.queryEntries (action : Action) (arguments : List Argument) : List (String × String) :=
  (action.parameters.zip arguments).flatMap fun pair => pair.1.queryEntries pair.2

/-- The entries that the parameter at a position makes. -/
def Action.entriesAt (action : Action) (arguments : List Argument) (position : Nat) : List (String × String) :=
  match action.parameters[position]?, arguments[position]? with
  | some parameter, some argument => argument.values.map (Prod.mk parameter.name)
  | _, _ => []

/-- A template whose literal text begins neither a query nor a fragment. -/
def Action.EndsInPath (action : Action) : Prop :=
  ∀ text, Route.Segment.literal text ∈ Route.segments action.template → '?' ∉ text.toList ∧ '#' ∉ text.toList

namespace Url

def isEncodedInComponent (c : Char) : Bool :=
  !(c.isAlphanum || c ∈ ['-', '_', '.', '!', '~', '*', '\'', '(', ')'])

def encodeComponent (text : String) : List Char := percentEncode isEncodedInComponent text.toList

/-- The query of a URL: what stands behind its first question mark and before its fragment. -/
def queryComponent (url : List Char) : List Char := ((cutAt '?' (cutAt '#' url).1).2).getD []

theorem notMem_encodeComponent {c : Char} (hc : c = '?' ∨ c = '#') (text : String) :
    c ∉ encodeComponent text := by
  intro hmem
  have hencoded := mem_percentEncode hmem
  rcases hc with rfl | rfl
  · revert hencoded
    decide
  · revert hencoded
    decide

end Url

/-- What an argument contributes to a path; an optional one may be left out. -/
def Argument.component : Argument → Bool → List Char
  | absent, true => []
  | argument, _ => Url.encodeComponent argument.text

theorem Argument.notMem_component {c : Char} (hc : c = '?' ∨ c = '#') (argument : Argument) (isOptional : Bool) :
    c ∉ argument.component isOptional := by
  rw [Argument.component.eq_def]
  split
  · exact List.not_mem_nil
  · exact Url.notMem_encodeComponent hc _

namespace Script

def UrlPart.evaluate (valueOf : String → Argument) : UrlPart → List Char
  | literal text => text.toList
  | value identifier isOptional => (valueOf identifier).component isOptional

/-- The entries that the query gets from a parameter; the elements of a text are its characters. -/
def QueryEntry.evaluate (valueOf : String → Argument) (entry : QueryEntry) : List (String × String) :=
  match valueOf entry.identifier, entry.isList with
  | .absent, _ => []
  | .list texts, true => texts.map (Prod.mk entry.name)
  | .scalar text, true => text.toList.map fun c => (entry.name, String.singleton c)
  | argument, false => [(entry.name, argument.text)]

namespace ClientFunction

/-- The value of an identifier while a function is carried out. -/
def valueOf (function : ClientFunction) (arguments : List Argument) (identifier : String) : Argument :=
  (((function.signature.map SignatureEntry.identifier).zip arguments).lookup identifier).getD .absent

def path (function : ClientFunction) (arguments : List Argument) : List Char :=
  function.url.flatMap (UrlPart.evaluate (function.valueOf arguments))

def searchParams (function : ClientFunction) (arguments : List Argument) : List (String × String) :=
  function.query.flatMap (QueryEntry.evaluate (function.valueOf arguments))

/-- The URL that a function asks for. -/
def requestUrl (function : ClientFunction) (arguments : List Argument) : List Char :=
  let queryString := Form.write (function.searchParams arguments)
  if queryString.isEmpty then function.path arguments else function.path arguments ++ '?' :: queryString

end ClientFunction

variable {types : TypeMap} {names : TypeNames} {action : Action} {identifiers : List String}
  {function : ClientFunction} {arguments : List Argument}

/-! ### Values by position -/

theorem lookup_zip {identifier : String} {position : Nat} {argument : Argument} (hdistinct : identifiers.Nodup)
    (hidentifier : identifiers[position]? = some identifier) (hargument : arguments[position]? = some argument) :
    (identifiers.zip arguments).lookup identifier = some argument := by
  induction identifiers generalizing arguments position with
  | nil => cases hidentifier
  | cons first identifiers ih =>
      obtain ⟨hfirst, hdistinct⟩ := List.nodup_cons.mp hdistinct
      cases arguments with
      | nil => cases hargument
      | cons given arguments =>
          rw [List.zip_cons_cons, List.lookup_cons]
          cases position with
          | zero =>
              cases hidentifier
              cases hargument
              simp
          | succ position =>
              have hne : (identifier == first) = false := by
                rw [beq_eq_false_iff_ne]
                rintro rfl
                exact hfirst (List.mem_of_getElem? hidentifier)
              rw [hne]
              exact ih hdistinct hidentifier hargument

theorem valueOf_eq (hplaced : PlacedByPosition types action identifiers function) {identifier : String}
    {position : Nat} {argument : Argument} (hidentifier : identifiers[position]? = some identifier)
    (hargument : arguments[position]? = some argument) : function.valueOf arguments identifier = argument := by
  rw [ClientFunction.valueOf, hplaced.signature, lookup_zip hplaced.distinct hidentifier hargument]
  rfl

theorem evaluate_of_fits {entry : QueryEntry} {valueOf : String → Argument}
    (h : (valueOf entry.identifier).Fits entry.isList) :
    entry.evaluate valueOf = (valueOf entry.identifier).values.map (Prod.mk entry.name) := by
  rw [QueryEntry.evaluate]
  generalize valueOf entry.identifier = argument, entry.isList = isList at h ⊢
  cases h with
  | absent isList => rfl
  | scalar text => rfl
  | list texts => rfl

/-! ### What a function sends -/

theorem flatMap_range {α β γ : Type} (f : α → β → List γ) {g : Nat → List γ} {left : List α} {right : List β}
    (hlength : left.length = right.length) (h : ∀ n a b, left[n]? = some a → right[n]? = some b → g n = f a b) :
    (List.range left.length).flatMap g = (left.zip right).flatMap fun pair => f pair.1 pair.2 := by
  rw [List.flatMap_def, List.flatMap_def]
  refine congrArg List.flatten (List.ext_getElem (by simp [hlength]) fun n hn hn' => ?_)
  simp only [List.length_map, List.length_range] at hn
  simp only [List.getElem_map, List.getElem_range, List.getElem_zip]
  exact h n _ _ (List.getElem?_eq_getElem hn) (List.getElem?_eq_getElem (hlength ▸ hn))

theorem flatMap_filter {α β : Type} (p : α → Bool) (f : α → List β) (list : List α) :
    (list.filter p).flatMap f = list.flatMap fun a => if p a then f a else [] := by
  induction list with
  | nil => rfl
  | cons a list ih =>
      rw [List.filter_cons, List.flatMap_cons, ← ih]
      split <;> rfl

theorem flatMap_eq_of_forall₂ {α β γ : Type} {f : α → List γ} {g : β → List γ} {left : List α} {right : List β}
    (h : List.Forall₂ (fun a b => f a = g b) left right) : left.flatMap f = right.flatMap g := by
  induction h with
  | nil => rfl
  | cons hhead _ ih => rw [List.flatMap_cons, List.flatMap_cons, hhead, ih]

/-- Arguments that fit are sent as they were given, each under the name of its parameter. -/
theorem searchParams_eq (hplaced : PlacedByPosition types action identifiers function)
    (hfits : action.Fits types arguments) :
    function.searchParams arguments = action.queryEntries arguments := by
  have hquery : (action.positions .query).flatMap (action.entriesAt arguments) = function.searchParams arguments := by
    have hkind : ∀ position ∈ action.positions .query, ∃ parameter,
        action.parameters[position]? = some parameter ∧ parameter.binding = .query :=
      fun _ => Action.mem_positions.mp
    refine flatMap_eq_of_forall₂ (((List.forall₂_and_left _ _).mpr ⟨hkind, hplaced.query⟩).imp ?_)
    rintro position entry ⟨⟨parameter, hat, hbinding⟩, _, hparameter, hidentifier, hname, hisArray⟩
    cases hat.symm.trans hparameter
    have hbound : position < arguments.length := hfits.length ▸ (List.getElem?_eq_some_iff.mp hparameter).1
    have hargument := List.getElem?_eq_getElem hbound
    have hvalue := valueOf_eq hplaced hidentifier hargument
    have hentry := hfits.query position parameter _ _ hparameter hbinding hisArray hargument
    rw [← hvalue] at hentry
    rw [evaluate_of_fits hentry, hvalue, hname]
    simp only [Action.entriesAt, hparameter, hargument]
  have hzip : (action.positions .query).flatMap (action.entriesAt arguments) = action.queryEntries arguments := by
    rw [Action.positions, flatMap_filter]
    refine flatMap_range Parameter.queryEntries hfits.length.symm ?_
    intro position parameter argument hparameter hargument
    simp only [Action.entriesAt, hparameter, hargument, Option.any_some, decide_eq_true_iff,
      Parameter.queryEntries]
  exact hquery.symm.trans hzip

theorem notMem_path (hplaced : PlacedByPosition types action identifiers function)
    (hclean : action.EndsInPath) {c : Char} (hc : c = '?' ∨ c = '#') : c ∉ function.path arguments := by
  intro hmem
  obtain ⟨part, hpart, hmem⟩ := List.mem_flatMap.mp hmem
  obtain ⟨segment, hsegment, hwrites⟩ := exists_left_of_forall₂ hplaced.url hpart
  cases hwrites with
  | literal text =>
      rcases hc with rfl | rfl
      · exact (hclean text hsegment).1 hmem
      · exact (hclean text hsegment).2 hmem
  | placeholder mark hfirst hparameter hidentifier => exact Argument.notMem_component hc _ _ hmem

end Script

end ApiProxy
