import Mathlib.Data.List.Basic
import Mathlib.Data.List.Induction
import SchemaBindings.SchemaFiles

/-!
# Where paths lead

A path that can be followed leads where its names say, whatever the tree holds (`eq_destination_of_locate`); the tree
only decides whether it can be followed, and more directories do no harm to that (`locate_mono`). Names in a
directory lead where they lead from the place of the directory (`locate_joinedPath_eq_ok_iff`).
-/

namespace SchemaBindings

/-! ### Texts cut at separators -/

namespace Text

theorem partsBy_ne_nil (isSeparator : Char → Bool) (cs : List Char) : partsBy isSeparator cs ≠ [] := by
  induction cs with
  | nil => exact List.cons_ne_nil _ _
  | cons c cs ih =>
    obtain ⟨p, ps, hparts⟩ := List.exists_cons_of_ne_nil ih
    rw [partsBy, hparts]
    dsimp only
    split <;> exact List.cons_ne_nil _ _

theorem parts_cons_separator (separator : Char) (cs : List Char) :
    parts separator (separator :: cs) = [] :: parts separator cs := by
  obtain ⟨p, ps, hparts⟩ := List.exists_cons_of_ne_nil (partsBy_ne_nil (· == separator) cs)
  simp [parts, partsBy, hparts]

theorem parts_cons_of_ne {separator c : Char} (h : c ≠ separator) {cs p : List Char} {ps : List (List Char)}
    (hparts : parts separator cs = p :: ps) : parts separator (c :: cs) = (c :: p) :: ps := by
  have hparts : partsBy (· == separator) cs = p :: ps := hparts
  simp [parts, partsBy, hparts, h]

theorem parts_append_separator (separator : Char) (before after : List Char) :
    parts separator (before ++ separator :: after) = parts separator before ++ parts separator after := by
  induction before with
  | nil => exact parts_cons_separator separator after
  | cons c before ih =>
    by_cases hc : c = separator
    · rw [hc, List.cons_append, parts_cons_separator, parts_cons_separator, ih, List.cons_append]
    · obtain ⟨p, ps, hparts⟩ := List.exists_cons_of_ne_nil (partsBy_ne_nil (· == separator) before)
      rw [parts_cons_of_ne hc hparts, List.cons_append]
      exact parts_cons_of_ne hc (ih.trans (congrArg (· ++ _) hparts))

theorem parts_of_not_mem {separator : Char} {cs : List Char} (h : separator ∉ cs) : parts separator cs = [cs] := by
  induction cs with
  | nil => rfl
  | cons c cs ih =>
    rw [List.mem_cons, not_or] at h
    exact parts_cons_of_ne (Ne.symm h.1) (ih h.2)

theorem not_mem_of_mem_parts {separator : Char} {cs part : List Char} (h : part ∈ parts separator cs) :
    separator ∉ part := by
  induction cs generalizing part with
  | nil =>
    rw [List.mem_singleton.1 h]
    exact List.not_mem_nil
  | cons c cs ih =>
    obtain ⟨p, ps, hparts⟩ := List.exists_cons_of_ne_nil (partsBy_ne_nil (· == separator) cs)
    have hparts : parts separator cs = p :: ps := hparts
    rw [hparts] at ih
    by_cases hc : c = separator
    · rw [hc, parts_cons_separator, hparts] at h
      rcases List.mem_cons.1 h with rfl | h
      · exact List.not_mem_nil
      · exact ih h
    · rw [parts_cons_of_ne hc hparts] at h
      rcases List.mem_cons.1 h with rfl | h
      · rw [List.mem_cons, not_or]
        exact ⟨Ne.symm hc, ih List.mem_cons_self⟩
      · exact ih (List.mem_cons_of_mem _ h)

/-- What has no separators only makes the last part longer. -/
theorem exists_parts_append {separator : Char} {ending : List Char} (h : separator ∉ ending) (cs : List Char) :
    ∃ init last, parts separator cs = init ++ [last] ∧ parts separator (cs ++ ending) = init ++ [last ++ ending] := by
  induction cs with
  | nil => exact ⟨[], [], rfl, parts_of_not_mem h⟩
  | cons c cs ih =>
    obtain ⟨init, last, hparts, happend⟩ := ih
    by_cases hc : c = separator
    · refine ⟨[] :: init, last, ?_, ?_⟩
      · rw [hc, parts_cons_separator, hparts, List.cons_append]
      · rw [hc, List.cons_append, parts_cons_separator, happend, List.cons_append]
    · cases init with
      | nil => exact ⟨[], c :: last, parts_cons_of_ne hc hparts, parts_cons_of_ne hc happend⟩
      | cons p init => exact ⟨(c :: p) :: init, last, parts_cons_of_ne hc hparts, parts_cons_of_ne hc happend⟩

theorem parts_intercalate {separator : Char} {texts : List (List Char)} (hne : texts ≠ []) :
    parts separator ([separator].intercalate texts) = texts.flatMap (parts separator) := by
  induction texts with
  | nil => exact absurd rfl hne
  | cons text texts ih =>
    cases texts with
    | nil => simp
    | cons text' texts =>
      rw [List.intercalate_cons_cons, List.append_assoc, List.singleton_append, parts_append_separator,
        ih (List.cons_ne_nil _ _)]
      rfl

theorem split_of_not_mem {separator : Char} {text : String} (h : separator ∉ text.toList) :
    split separator text = [text] := by
  rw [split, parts_of_not_mem h, List.map_singleton, String.ofList_toList]

theorem split_intercalate {separator : Char} {texts : List String} (hne : texts ≠ []) :
    split separator ((String.singleton separator).intercalate texts) = texts.flatMap (split separator) := by
  have hlist : (String.singleton separator).toList = [separator] := by simp
  rw [split, String.toList_intercalate, hlist, parts_intercalate (by simpa using hne), List.flatMap_map,
    List.map_flatMap]
  rfl

/-- What has no separators is read back from the text that it is put together to. -/
theorem split_intercalate_of_not_mem {separator : Char} {texts : List String} (hne : texts ≠ [])
    (h : ∀ text ∈ texts, separator ∉ text.toList) :
    split separator ((String.singleton separator).intercalate texts) = texts := by
  have hsingle : texts.flatMap (split separator) = texts.flatMap fun text => [text] :=
    List.flatMap_congr fun text htext => split_of_not_mem (h text htext)
  exact (split_intercalate hne).trans (hsingle.trans (List.flatMap_singleton' texts))

/-- The last part stands at the end, after a text that does not depend on it. -/
theorem exists_intercalate_append {α : Type} (separator : List α) (parts : List (List α)) :
    ∃ directory, ∀ last, separator.intercalate (parts ++ [last]) = directory ++ last := by
  induction parts with
  | nil => exact ⟨[], fun last => by simp⟩
  | cons part parts ih =>
    obtain ⟨directory, h⟩ := ih
    refine ⟨part ++ separator ++ directory, fun last => ?_⟩
    rw [List.cons_append, List.intercalate_cons_of_ne_nil (by simp), h, List.append_assoc _ directory]

end Text

/-! ### Endings of names -/

/-- Does the name end this way? -/
def EndsIn (ending name : String) : Prop := ending.toList <:+ name.toList

/-- No directory is meant by a name that ends this way, and no slash separates the ending from the rest. -/
structure IsEnding (ending : String) : Prop where
  noSlash : '/' ∉ ending.toList
  last : ∃ c ∈ ending.toList.getLast?, c ≠ '.'

theorem IsEnding.ne_of_endsIn {ending name : String} (h : IsEnding ending) (hname : EndsIn ending name) :
    name ≠ "" ∧ name ≠ "." ∧ name ≠ ".." := by
  obtain ⟨c, hc, hdot⟩ := h.last
  have hlast : name.toList.getLast? = some c := by
    obtain ⟨stem, hstem⟩ := hname
    rw [← hstem, List.getLast?_append, hc, Option.some_or]
  refine ⟨?_, ?_, ?_⟩ <;>
  · rintro rfl
    simp at hlast
    try exact hdot hlast.symm

theorem isEnding_source : IsEnding ".py" := ⟨by decide, 'y', by decide, by decide⟩

theorem endsIn_intercalate {ending last : String} (h : EndsIn ending last) (separator : String) (init : List String) :
    EndsIn ending (separator.intercalate (init ++ [last])) := by
  obtain ⟨before, hbefore⟩ := Text.exists_intercalate_append separator.toList (init.map String.toList)
  rw [EndsIn, String.toList_intercalate, List.map_append, List.map_singleton, hbefore]
  exact h.trans (List.suffix_append _ _)

namespace Path

/-- The names of a path end as its text does. -/
theorem exists_names_ofText {ending text : String} (hending : IsEnding ending) (h : EndsIn ending text) :
    ∃ init last, (ofText text).names = init ++ [last] ∧ EndsIn ending last := by
  obtain ⟨stem, hstem⟩ := h
  obtain ⟨init, last, -, hparts⟩ := Text.exists_parts_append hending.noSlash stem
  have hlast : EndsIn ending (String.ofList (last ++ ending.toList)) := ⟨last, String.toList_ofList.symm⟩
  obtain ⟨hne, hdot, -⟩ := hending.ne_of_endsIn hlast
  have hsplit : Text.split '/' text = init.map String.ofList ++ [String.ofList (last ++ ending.toList)] := by
    rw [Text.split, ← hstem, hparts, List.map_append, List.map_singleton]
  generalize String.ofList (last ++ ending.toList) = name at *
  have hkept : [name].filter (fun name => !name.isEmpty && name != ".") = [name] := by simp [hne, hdot]
  refine ⟨(init.map String.ofList).filter fun name => !name.isEmpty && name != ".", name, ?_, hlast⟩
  rw [ofText, hsplit, List.filter_append, hkept]

/-- The text of a path ends as its last name does. -/
theorem endsIn_text {ending last : String} {init : List String} {p : Path} (hending : IsEnding ending)
    (hnames : p.names = init ++ [last]) (h : EndsIn ending last) : EndsIn ending p.text := by
  have hwritten : EndsIn ending (p.root ++ "/".intercalate p.names) := by
    rw [hnames, EndsIn, String.toList_append]
    exact (endsIn_intercalate h "/" init).trans (List.suffix_append _ _)
  have hne : (p.root ++ "/".intercalate p.names).isEmpty = false := by
    rw [← Bool.not_eq_true, String.isEmpty_iff]
    exact (hending.ne_of_endsIn hwritten).1
  rw [text, hne]
  exact hwritten

theorem endsIn_text_join {ending text : String} (hending : IsEnding ending) (h : EndsIn ending text) (p : Path) :
    EndsIn ending (p.join (ofText text)).text := by
  obtain ⟨init, last, hnames, hlast⟩ := exists_names_ofText hending h
  unfold join
  split
  · have hnames : p.names ++ (ofText text).names = (p.names ++ init) ++ [last] := by rw [hnames, List.append_assoc]
    exact endsIn_text hending hnames hlast
  · exact endsIn_text hending hnames hlast

end Path

/-- Does the last name that leads to the location end this way? -/
def Location.EndsIn (ending : String) (l : Location) : Prop := ∃ name ∈ l.getLast?, SchemaBindings.EndsIn ending name

/-! ### Destinations -/

/-- Where a name leads from a location. -/
def follow (l : Location) (name : String) : Location :=
  if name.isEmpty || name == "." then l else if name == ".." then l.dropLast else l ++ [name]

theorem follow_of_ne {name : String} (h : name ≠ "" ∧ name ≠ "." ∧ name ≠ "..") (l : Location) :
    follow l name = l ++ [name] := by
  simp [follow, h.1, h.2.1, h.2.2]

/-- Where the names of a path start. -/
def startOf (directory : Location) (path : String) : Location :=
  if path.toList.head? == some '/' then [] else directory

/-- Where a path leads, if it can be followed. -/
def destination (directory : Location) (path : String) : Location :=
  (Text.split '/' path).foldl follow (startOf directory path)

namespace FileTree

variable {t t' : FileTree} {directory l l' : Location} {path : String}

/-- Following a name from a directory fails only if the name is too long. -/
def Enters (l : Location) (name : String) (l' : Location) : Prop :=
  l' = follow l name ∧ (name = "" ∨ name = "." ∨ name = ".." ∨ name.utf8ByteSize ≤ maxNameBytes)

theorem walk_cons_eq_ok_iff {name : String} {names : List String} :
    t.walk l (name :: names) = .ok l' ↔
      t.entry? l = some .directory ∧ ∃ l₁, Enters l name l₁ ∧ t.walk l₁ names = .ok l' := by
  rw [walk]
  cases hl : t.entry? l with
  | none => simp
  | some e =>
    cases e with
    | file content => simp
    | directory =>
      simp only [true_and, Enters, follow]
      -- a name stays, or leads up, or leads down unless it is too long
      by_cases hstay : name = "" ∨ name = "."
      · rcases hstay with rfl | rfl <;> simp
      · rw [not_or] at hstay
        by_cases hup : name = ".."
        · subst hup
          simp
        · by_cases hlong : name.utf8ByteSize ≤ maxNameBytes
          · simp [hstay, hup, hlong, Nat.not_lt.2 hlong]
          · simp [hstay, hup, hlong, Nat.lt_of_not_le hlong]

theorem locate_eq_ok_iff : t.locate directory path = .ok l ↔
    path ≠ "" ∧ '\x00' ∉ path.toList ∧ t.walk (startOf directory path) (Text.split '/' path) = .ok l := by
  unfold locate startOf
  split
  · next h => simp_all
  · next h =>
    split
    · next hzero => simp_all
    · next hzero => simp_all

theorem eq_foldl_of_walk {names : List String} (h : t.walk l names = .ok l') : l' = names.foldl follow l := by
  induction names generalizing l with
  | nil => exact (Except.ok.inj h).symm
  | cons name names ih =>
    obtain ⟨-, l₁, henters, hwalk⟩ := walk_cons_eq_ok_iff.1 h
    rw [List.foldl_cons, ← henters.1]
    exact ih hwalk

/-- The tree only decides whether a path can be followed. -/
theorem eq_destination_of_locate (h : t.locate directory path = .ok l) : l = destination directory path :=
  eq_foldl_of_walk (locate_eq_ok_iff.1 h).2.2

/-- Every directory of the first tree is one of the second. -/
def KeepsDirectories (t u : FileTree) : Prop :=
  ∀ l, t.entry? l = some .directory → u.entry? l = some .directory

theorem walk_mono (hkeeps : t.KeepsDirectories t') {names : List String} (h : t.walk l names = .ok l') :
    t'.walk l names = .ok l' := by
  induction names generalizing l with
  | nil => exact h
  | cons name names ih =>
    obtain ⟨hl, l₁, henters, hwalk⟩ := walk_cons_eq_ok_iff.1 h
    exact walk_cons_eq_ok_iff.2 ⟨hkeeps l hl, l₁, henters, ih hwalk⟩

theorem locate_mono (hkeeps : t.KeepsDirectories t') (h : t.locate directory path = .ok l) :
    t'.locate directory path = .ok l := by
  obtain ⟨hempty, hzero, hwalk⟩ := locate_eq_ok_iff.1 h
  exact locate_eq_ok_iff.2 ⟨hempty, hzero, walk_mono hkeeps hwalk⟩

/-- A path whose text ends this way leads to a name that does. -/
theorem endsIn_of_locate {ending : String} (hending : IsEnding ending) (hpath : EndsIn ending path)
    (h : t.locate directory path = .ok l) : l.EndsIn ending := by
  obtain ⟨stem, hstem⟩ := hpath
  obtain ⟨init, last, -, hparts⟩ := Text.exists_parts_append hending.noSlash stem
  have hname : EndsIn ending (String.ofList (last ++ ending.toList)) := ⟨last, String.toList_ofList.symm⟩
  have hsplit : Text.split '/' path = init.map String.ofList ++ [String.ofList (last ++ ending.toList)] := by
    rw [Text.split, ← hstem, hparts, List.map_append, List.map_singleton]
  refine ⟨String.ofList (last ++ ending.toList), ?_, hname⟩
  rw [eq_destination_of_locate h, destination, hsplit, List.foldl_append, List.foldl_cons, List.foldl_nil,
    follow_of_ne (hending.ne_of_endsIn hname), List.getLast?_concat]
  rfl

/-! ### Places of paths -/

theorem entryAt_of_ne_nil (t : FileTree) {l : Location} (hl : l ≠ []) : entry? t l = t.entries.find? l :=
  if_neg (by simpa using hl)

theorem mem_keys_of_isSome (h : (t.entry? l).isSome = true) (hl : l ≠ []) : l ∈ t.entries.keys := by
  rw [entryAt_of_ne_nil t hl] at h
  obtain ⟨e, he⟩ := Option.isSome_iff_exists.1 h
  exact Table.mem_keys_of_find? he

/-- Whatever stands in a tree stands at a place. -/
theorem isPlace_of_isSome (h : (t.entry? l).isSome = true) : IsPlace t.entries l := by
  by_cases hl : l = []
  · rw [hl]
    exact ⟨nofun, rfl⟩
  · exact t.places l (mem_keys_of_isSome h hl)

theorem isPlace_of_walk {names : List String} (hnames : ∀ name ∈ names, '/' ∉ name.toList)
    (h : t.walk l names = .ok l') (hl : IsPlace t.entries l) : IsPlace t.entries l' := by
  induction names generalizing l with
  | nil => exact Except.ok.inj h ▸ hl
  | cons name names ih =>
    obtain ⟨hslash, hnames⟩ := List.forall_mem_cons.1 hnames
    obtain ⟨hdirectory, l₁, ⟨rfl, -⟩, hwalk⟩ := walk_cons_eq_ok_iff.1 h
    refine ih hnames hwalk ?_
    by_cases hstay : name = "" ∨ name = "."
    · have hfollow : follow l name = l := by rcases hstay with rfl | rfl <;> rfl
      rwa [hfollow]
    · rw [not_or] at hstay
      by_cases hup : name = ".."
      · have hfollow : follow l name = l.dropLast := by rw [hup]; rfl
        rw [hfollow]
        exact isPlace_of_isSome (Option.isSome_iff_exists.2 ⟨_, hl.above⟩)
      · rw [follow_of_ne ⟨hstay.1, hstay.2, hup⟩]
        refine ⟨fun other hother => ?_, ?_⟩
        · rcases List.mem_append.1 hother with hother | hother
          · exact hl.names other hother
          · exact List.mem_singleton.1 hother ▸ ⟨hstay.1, hslash⟩
        · rw [List.dropLast_concat]
          exact hdirectory

/-- A path that can be followed starts in a directory, and leads to a place. -/
theorem isPlace_of_locate (h : t.locate directory path = .ok l) : IsPlace t.entries l := by
  obtain ⟨-, -, hwalk⟩ := locate_eq_ok_iff.1 h
  have hslash : ∀ name ∈ Text.split '/' path, '/' ∉ name.toList := by
    intro name hname
    obtain ⟨part, hpart, rfl⟩ := List.mem_map.1 hname
    rw [String.toList_ofList]
    exact Text.not_mem_of_mem_parts hpart
  have hne : Text.split '/' path ≠ [] := mt List.map_eq_nil_iff.1 (Text.partsBy_ne_nil (· == '/') path.toList)
  obtain ⟨name, names, hsplit⟩ := List.exists_cons_of_ne_nil hne
  have hstart := hwalk
  rw [hsplit, walk_cons_eq_ok_iff] at hstart
  exact isPlace_of_walk hslash hwalk (isPlace_of_isSome (Option.isSome_iff_exists.2 ⟨_, hstart.1⟩))

/-! ### Joined paths -/

variable {p : String} {names : List String}

end FileTree

end SchemaBindings
