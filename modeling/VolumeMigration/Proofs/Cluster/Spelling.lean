import Mathlib.Logic.Relation
import VolumeMigration.Access
import VolumeMigration.Proofs.Text.Split

/-!
# Spellings of a path

A path may be written with slashes and dots that do not count: `LocalPath.Trims` takes one of them
away. Two paths have equal keys just when they can be made of each other in such steps, forth and
back (`LocalPath.key_eq_iff`). Trimming keeps the key, and it leads from every path to the text of
its key (`LocalPath.trimsTo_text`).
-/

namespace VolumeMigration

/-- The text of a path in which every slash and every dot counts. -/
def PathKey.text (key : PathKey) : String :=
  (if key.absolute then "/" else "") ++ "/".intercalate key.components

namespace LocalPath

/-- A path is written with a slash or a dot less: the second of two slashes, a slash at the end, or
a dot that is all that stands behind a slash or between two. -/
inductive Trims : LocalPath → LocalPath → Prop where
  | repeatedSlash (before after : String) : Trims ⟨before ++ "//" ++ after⟩ ⟨before ++ "/" ++ after⟩
  | trailingSlash {before : String} (nonempty : before ≠ "") : Trims ⟨before ++ "/"⟩ ⟨before⟩
  | innerDot (before after : String) : Trims ⟨before ++ "/./" ++ after⟩ ⟨before ++ "/" ++ after⟩
  | finalDot (before : String) : Trims ⟨before ++ "/."⟩ ⟨before ++ "/"⟩

/-- A path is trimmed in some number of steps. -/
def TrimsTo : LocalPath → LocalPath → Prop :=
  Relation.ReflTransGen Trims

/-- Paths that differ in slashes and dots that do not count. -/
def Alike : LocalPath → LocalPath → Prop :=
  Relation.EqvGen Trims

theorem TrimsTo.alike {path trimmed : LocalPath} (trims : TrimsTo path trimmed) :
    Alike path trimmed :=
  Relation.EqvGen.reflTransGen_le_eqvGen Trims _ _ trims

/-! ## Trimming keeps the key -/

/-- A piece of a path that counts wherever it stands. -/
def isName (piece : String) : Bool := piece != "" && piece != "."

theorem blank_of_nameless {piece : String} (nameless : isName piece = false) :
    piece = "" ∨ piece = "." := by
  by_cases empty : piece = ""
  · exact .inl empty
  · exact .inr (by simpa [isName, empty] using nameless)

/-- What counts in a path, whose first piece may be a dot. -/
theorem components_of_split {path : LocalPath} {first : String} {rest : List String}
    (pieces : Text.split '/' path.text = first :: rest) :
    path.components = (if first = "" then [] else [first]) ++ rest.filter isName := by
  change _ = _ ++ rest.filter fun piece => piece != "" && piece != "."
  unfold components
  rw [pieces]
  by_cases empty : first = ""
  · simp [empty]
  · by_cases dot : first = "." <;> simp [empty, dot]

theorem split_append_slash (before after : String) :
    Text.split '/' (before ++ "/" ++ after) = Text.split '/' before ++ Text.split '/' after :=
  Text.split_append_separator '/' before after

/-- Behind a slash only the names of a path count. -/
theorem components_append (before after : String) :
    (mk (before ++ "/" ++ after)).components =
      (mk before).components ++ (Text.split '/' after).filter isName := by
  rcases Text.exists_split_cons '/' before with ⟨first, rest, pieces⟩
  have longer : Text.split '/' (before ++ "/" ++ after) =
      first :: (rest ++ Text.split '/' after) := by
    rw [split_append_slash, pieces, List.cons_append]
  rw [components_of_split longer, components_of_split pieces, List.filter_append,
    List.append_assoc]

/-- What stands behind a slash does not make a path absolute or relative. -/
theorem isAbsolute_append (before after : String) :
    (mk (before ++ "/" ++ after)).isAbsolute = (before == "" || (mk before).isAbsolute) := by
  unfold isAbsolute
  cases chars : before.toList with
  | nil => simp [String.toList_eq_nil_iff.mp chars]
  | cons char rest =>
      have filled : before ≠ "" := by
        rintro rfl
        cases chars
      simp [chars, filled]

/-- What stands behind a slash counts by its names. -/
theorem key_append_congr (before : String) {after other : String}
    (names : (Text.split '/' after).filter isName = (Text.split '/' other).filter isName) :
    (mk (before ++ "/" ++ after)).key = (mk (before ++ "/" ++ other)).key := by
  simp only [key, components_append, isAbsolute_append, names]

/-- Between two slashes nothing counts but a name. -/
theorem key_skip (before piece after : String) (single : Text.split '/' piece = [piece])
    (nameless : isName piece = false) :
    (mk (before ++ ("/" ++ piece ++ "/") ++ after)).key = (mk (before ++ "/" ++ after)).key := by
  have parted : before ++ ("/" ++ piece ++ "/") ++ after =
      before ++ "/" ++ (piece ++ "/" ++ after) := by
    simp only [String.append_assoc]
  rw [parted]
  apply key_append_congr
  rw [split_append_slash, single, List.singleton_append, List.filter_cons, nameless]
  rfl

/-- One step of trimming keeps the key of a path. -/
theorem Trims.key_eq {path trimmed : LocalPath} (trims : Trims path trimmed) :
    path.key = trimmed.key := by
  cases trims with
  | repeatedSlash before after => exact key_skip before "" after rfl rfl
  | innerDot before after => exact key_skip before "." after rfl rfl
  | finalDot before =>
      have behind : (mk (before ++ "/" ++ ".")).key = (mk (before ++ "/" ++ "")).key :=
        key_append_congr before rfl
      rwa [String.append_assoc, String.append_empty] at behind
  | @trailingSlash before filled =>
      have components_eq := components_append before ""
      have absolute_eq := isAbsolute_append before ""
      rw [String.append_empty] at components_eq absolute_eq
      have empty_split : (Text.split '/' "").filter isName = [] := rfl
      simp [key, components_eq, absolute_eq, empty_split, filled]

/-! ## Trimming leads to the text of the key -/

/-- Pieces with a slash in front of each of them. -/
def below : List String → String
  | [] => ""
  | piece :: rest => "/" ++ piece ++ below rest

theorem intercalate_cons (first : String) (rest : List String) :
    "/".intercalate (first :: rest) = first ++ below rest := by
  induction rest generalizing first with
  | nil => simp [below]
  | cons next rest ih =>
      rw [String.intercalate_cons_cons, ih, below, String.append_assoc, String.append_assoc]

/-- The pieces of a path, joined by slashes, are the path. -/
theorem text_eq_of_split {text first : String} {rest : List String}
    (pieces : Text.split '/' text = first :: rest) : text = first ++ below rest := by
  have joined := Text.intercalate_split '/' text
  rw [pieces] at joined
  rw [← joined]
  exact intercalate_cons first rest

/-- A piece that is no name is trimmed away, unless it is all that there is. -/
theorem trimsTo_below_cons {piece : String} (nameless : isName piece = false) (before : String)
    {rest : List String} (held : before ≠ "" ∨ rest ≠ []) :
    TrimsTo ⟨before ++ below (piece :: rest)⟩ ⟨before ++ below rest⟩ := by
  have blank := blank_of_nameless nameless
  cases rest with
  | nil =>
      have filled : before ≠ "" := by simpa using held
      have last : TrimsTo ⟨before ++ "/"⟩ ⟨before⟩ := .single (.trailingSlash filled)
      simp only [below, String.append_empty]
      rcases blank with rfl | rfl
      · exact last
      · exact last.head (.finalDot before)
  | cons next rest =>
      have parted : before ++ below (piece :: next :: rest) =
          before ++ ("/" ++ piece ++ "/") ++ (next ++ below rest) := by
        simp only [below, String.append_assoc]
      have joined : before ++ below (next :: rest) = before ++ "/" ++ (next ++ below rest) := by
        simp only [below, String.append_assoc]
      rw [parted, joined]
      rcases blank with rfl | rfl
      · exact .single (.repeatedSlash before _)
      · exact .single (.innerDot before _)

/-- Pieces without a name can be trimmed one by one. -/
theorem trimsTo_below {before : String} (filled : before ≠ "") (pieces : List String) :
    TrimsTo ⟨before ++ below pieces⟩ ⟨before ++ below (pieces.filter isName)⟩ := by
  induction pieces generalizing before with
  | nil => exact .refl
  | cons piece rest ih =>
      cases name : isName piece with
      | true =>
          have longer : before ++ ("/" ++ piece) ≠ "" := by simp [filled]
          simpa [List.filter_cons, name, below, String.append_assoc] using ih longer
      | false =>
          rw [List.filter_cons, name]
          exact (trimsTo_below_cons name before (.inl filled)).trans (ih filled)

/-- The pieces of a path that starts at the root, where one slash stays. -/
theorem trimsTo_root {pieces : List String} (filled : pieces ≠ []) :
    TrimsTo ⟨below pieces⟩ ⟨"/" ++ "/".intercalate (pieces.filter isName)⟩ := by
  induction pieces with
  | nil => contradiction
  | cons piece rest ih =>
      cases name : isName piece with
      | true =>
          have slash : "/" ++ piece ≠ "" := by simp
          rw [List.filter_cons, if_pos name, intercalate_cons, ← String.append_assoc]
          exact trimsTo_below slash rest
      | false =>
          rw [List.filter_cons, name]
          cases rest with
          | nil =>
              rcases blank_of_nameless name with rfl | rfl
              · exact .refl
              · exact .single (.finalDot "")
          | cons next rest =>
              have skipped := trimsTo_below_cons name "" (.inr (List.cons_ne_nil next rest))
              rw [String.empty_append, String.empty_append] at skipped
              exact skipped.trans (ih (List.cons_ne_nil next rest))

theorem isAbsolute_of_split {text first : String} {rest : List String}
    (pieces : Text.split '/' text = first :: rest) (filled : first ≠ "") :
    (mk text).isAbsolute = false := by
  have unbroken : '/' ∉ first.toList := Text.not_mem_of_mem_split (pieces ▸ List.mem_cons_self)
  rw [text_eq_of_split pieces, isAbsolute, String.toList_append]
  cases chars : first.toList with
  | nil => exact absurd (String.toList_eq_nil_iff.mp chars) filled
  | cons char more =>
      have other : char ≠ '/' := by
        rintro rfl
        simp [chars] at unbroken
      simp [other]

/-- Every path can be trimmed to the text of its key. -/
theorem trimsTo_text (path : LocalPath) : path.TrimsTo ⟨path.key.text⟩ := by
  rcases path with ⟨text⟩
  rcases Text.exists_split_cons '/' text with ⟨first, rest, pieces⟩
  have text_eq := text_eq_of_split pieces
  have components_eq : (mk text).components = _ := components_of_split pieces
  by_cases empty : first = ""
  · subst empty
    rw [String.empty_append] at text_eq
    cases rest with
    | nil =>
        rw [text_eq]
        exact .refl
    | cons next more =>
        have absolute : (mk text).isAbsolute = true := by
          rw [text_eq]
          simp [isAbsolute, below]
        have trimmed := trimsTo_root (List.cons_ne_nil next more)
        rw [← text_eq] at trimmed
        simpa [PathKey.text, key, absolute, components_eq] using trimmed
  · have relative := isAbsolute_of_split pieces empty
    have trimmed := trimsTo_below empty rest
    rw [← text_eq, ← intercalate_cons] at trimmed
    simpa [PathKey.text, key, relative, components_eq, empty] using trimmed

/-- Paths have one key exactly if trimming steps lead from one to the other. -/
theorem key_eq_iff {path other : LocalPath} : path.key = other.key ↔ path.Alike other := by
  constructor
  · intro same
    have path_alike := (trimsTo_text path).alike
    rw [same] at path_alike
    exact path_alike.trans _ _ _ ((trimsTo_text other).alike.symm _ _)
  · intro alike
    induction alike with
    | rel _ _ trims => exact trims.key_eq
    | refl _ => rfl
    | symm _ _ _ ih => exact ih.symm
    | trans _ _ _ _ _ left right => exact left.trans right

/-- A dot counts in front of a path, and nowhere else. -/
example :
    (mk "./kube//config").Alike ⟨"./kube/./config/"⟩ ∧ ¬(mk "./kube").Alike ⟨"kube"⟩ := by
  simp only [← key_eq_iff]
  decide

end LocalPath

/-! ## Accesses -/

/-- The paths of the kubeconfigs may be spelled differently, all else is taken as it is written. -/
theorem ClusterAccess.same_iff {access other : ClusterAccess} :
    access.Same other ↔
      access.context = other.context ∧
        Option.Rel LocalPath.Alike access.kubeconfig other.kubeconfig := by
  have parted : access.Same other ↔
      access.kubeconfig.map LocalPath.key = other.kubeconfig.map LocalPath.key ∧
        access.context = other.context := by
    rw [Same, key, key, AccessKey.mk.injEq]
  rw [parted, and_comm, and_congr_right_iff]
  intro _
  cases access.kubeconfig <;> cases other.kubeconfig <;> simp [LocalPath.key_eq_iff]

end VolumeMigration
