import WrapperSynthesis.Proofs.Pass.Batch
import WrapperSynthesis.Proofs.Service.Consistency
import WrapperSynthesis.Proofs.Wrapping.AsciiName

/-! Handle names from ASCII identities. Upper camel case keeps their letters and digits, so methods
come to share a polling handle only when these are the same up to case, whether the methods are
wrapped one by one or in a pass (`pascalCase_of_ascii`). -/

namespace WrapperSynthesis

open Text

namespace Method.Rewired

variable {naming : Naming} {types : Registry} {m m' : Method} {kind : OperationKind}
  {outcome : Outcome} {id : TypeId} {listAll : Bool}

theorem wrappers_eq (rewired : m.Rewired naming types kind outcome m') (wrapped : kind ≠ .plain) :
    m'.returnType.wrappers = outcome.wrappers := by
  cases rewired with
  | plain => exact absurd rfl wrapped
  | paginated | longRunning | paginatedLongRunning => rfl

/-- A wrapper that is a polling handle is the canonical one for a handle that the method asks
for. -/
theorem exists_handle (rewired : m.Rewired naming types kind outcome m')
    (hid : id ∈ outcome.wrappers) (held : types.HoldsHandle id listAll) :
    ∃ h ∈ m.handles naming kind, types.idOf? h.key = some id := by
  -- A handle and a page iterator have keys of different kinds.
  have no_pager : ∀ element needsPreparer,
      types.idOf? (.pageIterator element needsPreparer) ≠ some id := by
    intro element needsPreparer hp
    obtain ⟨type, found, _, hk⟩ := Registry.exists_of_idOf? hp
    obtain ⟨h, handle, _⟩ := held
    rw [found, Option.some.injEq] at handle
    rw [handle] at hk
    cases hk
  cases rewired with
  | plain => cases hid
  | paginated _ hp =>
    rw [Outcome.wrappers, List.mem_singleton] at hid
    subst hid
    exact absurd hp (no_pager _ _)
  | longRunning hh =>
    rw [Outcome.wrappers, List.mem_singleton] at hid
    subst hid
    exact ⟨_, List.mem_singleton_self _, hh⟩
  | paginatedLongRunning _ hh hl hp =>
    simp only [Outcome.wrappers, List.mem_cons, List.not_mem_nil, or_false] at hid
    rcases hid with rfl | rfl | rfl
    · exact ⟨_, List.mem_cons_self, hh⟩
    · exact ⟨_, List.mem_cons_of_mem _ List.mem_cons_self, hl⟩
    · exact absurd hp (no_pager _ _)

/-- Two methods with one polling handle in a registry have the same letters and digits. -/
theorem letters_eq {n n' : Method} {kind' : OperationKind} {outcome' : Outcome}
    (rewired : m.Rewired pascalCase types kind outcome m')
    (rewired' : n.Rewired pascalCase types kind' outcome' n') (ascii : m.IsAscii)
    (ascii' : n.IsAscii) (hid : id ∈ outcome.wrappers) (hid' : id ∈ outcome'.wrappers)
    (held : types.HoldsHandle id listAll) : m.letters = n.letters := by
  obtain ⟨h, hm, found⟩ := rewired.exists_handle hid held
  obtain ⟨h', hn, found'⟩ := rewired'.exists_handle hid' held
  exact letters_eq_of_key ascii ascii' hm hn (Registry.key_eq_of_idOf? found found')

end Method.Rewired

/-- Upper camel case neither loses nor adds letters and digits of ASCII texts. Every piece of them
that begins with a letter makes a word that begins with a capital, and parts are named one after the
other, so that a list-all handle is named after the other handle of its method. Two methods can be
given one polling handle, in two wrappings with any additions between them or in one pass, only when
their groups and names have the same letters and digits up to case. -/
theorem pascalCase_of_ascii {parts : List String} (ascii : ∀ part ∈ parts, IsAscii part.toList) :
    (∀ c ∈ (pascalCase parts).toList, c.isAlphanum = true) ∧
    (pascalCase parts).toList.map Char.toLower = lowered (parts.flatMap String.toList) ∧
    ((pascalCase parts).toList =
        (parts.flatMap fun part => words part.toList).flatMap capitalized ∧
      ∀ part ∈ parts, ∀ before c piece after, part.toList = before ++ c :: piece ++ after →
        IsPiece before (c :: piece) after → c.isAlpha = true →
        words part.toList = words before ++ words (c :: piece) ++ words after ∧
          ∃ word more, words (c :: piece) = (c :: word) :: more ∧
            capitalized (c :: word) = c.toUpper :: word.map Char.toLower ∧
            c.toUpper.isUpper = true) ∧
    (∀ more : List String, pascalCase (parts ++ more) = pascalCase parts ++ pascalCase more) ∧
    (∀ m : Method, m.listAllName pascalCase = m.handleName pascalCase ++ "All") ∧
    (∀ (m m' : Method) (kind kind' : OperationKind) (types types' : Registry)
        (outcome outcome' : Outcome) (w w' : Workpiece) (id : TypeId) (listAll : Bool),
      m.IsAscii → m'.IsAscii →
      (Wrapping.wrapAs pascalCase kind).run ⟨m, types⟩ = .ok outcome w →
      w.types.Grows types' →
      (Wrapping.wrapAs pascalCase kind').run ⟨m', types'⟩ = .ok outcome' w' →
      id ∈ outcome.wrappers → id ∈ outcome'.wrappers → w'.types.HoldsHandle id listAll →
      m.letters = m'.letters) ∧
    ∀ (settings : GenerationSettings) (s s' : Service) (report : Report) (id : TypeId)
        (listAll : Bool),
      (Service.augment pascalCase settings).run s = .ok report s' →
      ∀ p ∈ s.methods.zip s'.methods, ∀ q ∈ s.methods.zip s'.methods,
        p.1.IsAscii → q.1.IsAscii →
        settings.kindOf p.1 ≠ .plain → settings.kindOf q.1 ≠ .plain →
        id ∈ p.2.returnType.wrappers → id ∈ q.2.returnType.wrappers →
        s'.types.HoldsHandle id listAll → p.1.letters = q.1.letters := by
  refine ⟨?_, ?_, ⟨toList_pascalCase parts, ?_⟩, pascalCase_append parts, listAllName_pascalCase,
    ?_, ?_⟩
  · intro c hc
    rw [pascalCase, String.toList_ofList] at hc
    obtain ⟨part, hp, hc⟩ := List.mem_flatMap.mp hc
    exact isAlphanum_of_mem_upperCamel (ascii part hp) c hc
  · rw [pascalCase, String.toList_ofList, List.map_flatMap, lowered_flatMap, List.flatMap_def,
      List.flatMap_def]
    exact congrArg List.flatten <| List.map_congr_left fun part hp =>
      map_toLower_upperCamel (ascii part hp)
  · intro part hp before c piece after shape whole letter
    have text := ascii part hp
    rw [shape] at text ⊢
    exact words_of_piece text whole letter
  · intro m m' kind kind' types types' outcome outcome' w w' id listAll ascii ascii' run grows run'
      hid hid' held
    obtain ⟨-, -, first⟩ := Wrapping.of_run_wrapAs run
    obtain ⟨-, types, second⟩ := Wrapping.of_run_wrapAs run'
    have later : w.types.Grows w'.types := by
      rw [types]
      exact grows.trans (Registry.grows_registerAll _ _)
    exact (first.grows later).letters_eq second ascii ascii' hid hid' held
  · rintro settings s s' report id listAll ok ⟨m, m'⟩ hp ⟨n, n'⟩ hq ascii ascii' wrapped wrapped'
      hid hid' held
    obtain ⟨-, reworked, -⟩ := reworked_of_run_augment ok
    obtain ⟨-, outcome, first⟩ := (List.forall₂_iff_zip.mp reworked.rewired).2 hp
    obtain ⟨-, outcome', second⟩ := (List.forall₂_iff_zip.mp reworked.rewired).2 hq
    rw [first.wrappers_eq wrapped] at hid
    rw [second.wrappers_eq wrapped'] at hid'
    exact first.letters_eq second ascii ascii' hid hid' held

/-! ### Acronyms, digits, runs of separators, and two spellings of one name -/

def spelledParts : List String := ["HTTPServer2x--list", "", "9lives_All"]

/-- Both methods ask for a handle named `WebAppsStart`. -/
def respelledService : Service where
  name := "apps"
  methods := [
    { group := "web.apps", name := "Start", kind := .longRunning },
    { group := "Web", name := "apps_start", kind := .longRunning }]

def respelledServiceAugmented : Service where
  name := "apps"
  methods := [
    { group := "web.apps", name := "Start", kind := .longRunning,
      returnType := .response ⟨some ⟨0⟩, none⟩ },
    { group := "Web", name := "apps_start", kind := .longRunning,
      returnType := .response ⟨some ⟨0⟩, none⟩ }]
  types := .ofList [.pollingHandle ⟨"WebAppsStart", false, "web.apps", "Start", none⟩]

theorem pascalCase_spelledParts :
    (∀ part ∈ spelledParts, IsAscii part.toList) ∧
    pascalCase spelledParts = "HttpServer2xList9livesAll" ∧
    (pascalCase spelledParts).toList.map Char.toLower =
      lowered (spelledParts.flatMap String.toList) ∧
    IsPiece "HTTPServer2x--".toList "list".toList [] ∧
    words "HTTPServer2x--list".toList =
      words "HTTPServer2x--".toList ++ words "list".toList ++ words [] ∧
    (Service.augment pascalCase {}).run respelledService =
      .ok ⟨2, 0, 2, 0, 1, [⟨"WebAppsStart", ["web.apps.Start", "Web.apps_start"]⟩]⟩
        respelledServiceAugmented ∧
    lowered "web.appsStart".toList = lowered "Webapps_start".toList := by
  have ascii : ∀ part ∈ spelledParts, IsAscii part.toList := by decide
  have whole : IsPiece "HTTPServer2x--".toList "list".toList [] :=
    ⟨List.all_eq_true.mp rfl, by rintro c ⟨⟩; rfl, nofun⟩
  have ok : (Service.augment pascalCase {}).run respelledService =
      .ok ⟨2, 0, 2, 0, 1, [⟨"WebAppsStart", ["web.apps.Start", "Web.apps_start"]⟩]⟩
        respelledServiceAugmented := rfl
  obtain ⟨-, letters, ⟨-, pieces⟩, -, -, -, shared⟩ := pascalCase_of_ascii ascii
  have alone := pieces "HTTPServer2x--list" (by decide) "HTTPServer2x--".toList 'l' "ist".toList []
    rfl whole rfl
  refine ⟨ascii, by decide, letters, whole, alone.1, ok, ?_⟩
  exact shared {} _ _ _ ⟨0⟩ false ok _ List.mem_cons_self _
    (List.mem_cons_of_mem _ List.mem_cons_self) (by decide) (by decide) (by decide) (by decide)
    (by decide) (by decide) ⟨_, rfl, rfl⟩

end WrapperSynthesis
