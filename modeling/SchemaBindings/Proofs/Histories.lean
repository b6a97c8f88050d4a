import SchemaBindings.Proofs.TableLaws

/-!
# Targets after a history

Targets are given by calls of three kinds: one puts a target in place of any other, one offers a target to a name that
has none, and one offers a text to each scalar of a document. After any calls in any order, the names with targets are
those that came so far, in the order in which each came first, and a name has the last target that was put in place of
others, or else the first one that was offered (`Records`). No call takes a name away (`keys_prefix_run`), and a call
that offers targets tells just the names that had none.
-/

namespace SchemaBindings.Targets

/-! ### Calls -/

/-- Calls that give targets. -/
inductive Call
  | override (name target : String)
  | offer (name target : String)
  | register (definitions : List Schema.Definition)

/-- The targets that a call puts in place of others. -/
def Call.overrides : Call → List (String × String)
  | override name target => [(name, target)]
  | offer _ _ => []
  | register _ => []

/-- The targets that a call offers, in order. -/
def Call.offers : Call → List (String × String)
  | override _ _ => []
  | offer name target => [(name, target)]
  | register definitions => (scalarNames definitions).map fun name => (name, scalarTarget)

/-- The names that a call gives a target or offers one, in order. -/
def Call.names (c : Call) : List String := (c.overrides ++ c.offers).map Prod.fst

/-- The targets after a call. -/
def after (t : Targets) : Call → Targets
  | .override name target => t.override name target
  | .offer name target => (t.offer name target).1
  | .register definitions => (t.registerScalars definitions).1

/-- The targets after calls, one after the other. -/
def run (t : Targets) (calls : List Call) : Targets := calls.foldl after t

/-! ### One call -/

private theorem table_registerScalars (t : Targets) (definitions : List Schema.Definition) :
    (t.registerScalars definitions).1.table =
      ((scalarNames definitions).map fun name => (name, scalarTarget)).foldl
        (fun table pair => table.putIfAbsent pair.1 pair.2) t.table := by
  induction definitions generalizing t with
  | nil => rfl
  | cons d definitions ih =>
    cases d with
    | scalar name =>
      have hoffer := ih (t.offer name scalarTarget).1
      rw [table_offer] at hoffer
      exact hoffer
    | _ => exact ih t

/-- Every call puts some targets in place of others, and then offers some. -/
theorem table_after (t : Targets) (c : Call) :
    (t.after c).table = c.offers.foldl (fun table pair => table.putIfAbsent pair.1 pair.2)
      (c.overrides.foldl (fun table pair => table.put pair.1 pair.2) t.table) := by
  cases c with
  | override name target => rfl
  | offer name target => exact table_offer t name target
  | register definitions => exact table_registerScalars t definitions

theorem keys_after {t : Targets} {came : List String} (h : t.table.keys = came.eraseDups) (c : Call) :
    (t.after c).table.keys = (came ++ c.names).eraseDups := by
  have hoverrides := Table.keys_foldl (fun t pair => Table.keys_put t pair.1 pair.2) c.overrides h
  have hoffers := Table.keys_foldl (fun t pair => Table.keys_putIfAbsent t pair.1 pair.2) c.offers hoverrides
  rw [table_after, hoffers, Call.names, List.map_append, List.append_assoc]

theorem find?_after (t : Targets) (c : Call) (n : String) :
    (t.after c).find? n = ((c.overrides.reverse.lookup n).or (t.find? n)).or (c.offers.lookup n) := by
  unfold find?
  rw [table_after, Table.find?_foldl_putIfAbsent, Table.find?_foldl_put]

theorem options_after (t : Targets) (c : Call) : (t.after c).options = t.options := by
  cases c with
  | override name target => rfl
  | offer name target => exact options_offer t name target
  | register definitions => exact options_registerScalars t definitions

/-- No call takes a key away or moves one. -/
theorem keys_prefix_after (t : Targets) (c : Call) : t.table.keys <+: (t.after c).table.keys := by
  rw [keys_after t.table.eraseDups_keys.symm, List.eraseDups_append, Table.eraseDups_keys]
  exact List.prefix_append _ _

theorem keys_prefix_run (t : Targets) (calls : List Call) : t.table.keys <+: (t.run calls).table.keys := by
  induction calls generalizing t with
  | nil => exact List.prefix_rfl
  | cons c calls ih => exact (keys_prefix_after t c).trans (ih (t.after c))

/-! ### Histories -/

/-- What calls leave behind where the targets started with some options. -/
structure Records (o : Options) (calls : List Call) (t : Targets) : Prop where
  options_eq : t.options = o.withDefaults
  /-- Each name is there once, where it came first. -/
  keys_eq : t.table.keys = (o.customTypes.keys ++ calls.flatMap Call.names).eraseDups
  /-- The last target put in place of others, the custom type being the first of them, or else the first offer. -/
  find?_eq : ∀ n, t.find? n = ((o.customTypes.entries ++ calls.flatMap Call.overrides).reverse.lookup n).or
    ((calls.flatMap Call.offers).lookup n)

variable {o : Options} {calls : List Call} {t : Targets}

theorem records_ofOptions (o : Options) : Records o [] (ofOptions o) where
  options_eq := rfl
  keys_eq := by
    have htable : (ofOptions o).table = o.customTypes := Table.ofList_entries o.customTypes
    rw [htable, List.flatMap_nil, List.append_nil, Table.eraseDups_keys]
  find?_eq n := by
    rw [List.flatMap_nil, List.flatMap_nil, List.append_nil, List.lookup_nil, Option.or_none, ← Table.find?_ofList]
    rfl

theorem Records.after (h : Records o calls t) (c : Call) : Records o (calls ++ [c]) (t.after c) where
  options_eq := (options_after t c).trans h.options_eq
  keys_eq := by
    rw [keys_after h.keys_eq, List.flatMap_append, List.flatMap_singleton, List.append_assoc]
  find?_eq n := by
    have hoverrides : (o.customTypes.entries ++ (calls ++ [c]).flatMap Call.overrides).reverse =
        c.overrides.reverse ++ (o.customTypes.entries ++ calls.flatMap Call.overrides).reverse := by
      rw [List.flatMap_append, List.flatMap_singleton, ← List.append_assoc, List.reverse_append]
    rw [find?_after, h.find?_eq, hoverrides, List.lookup_append, List.flatMap_append, List.flatMap_singleton,
      List.lookup_append, Option.or_assoc, Option.or_assoc, Option.or_assoc]

theorem Records.run (h : Records o calls t) (later : List Call) : Records o (calls ++ later) (t.run later) := by
  induction later generalizing calls t with
  | nil => rwa [List.append_nil]
  | cons c later ih =>
    have hafter := ih (h.after c)
    rwa [List.append_assoc, List.singleton_append] at hafter

/-! ### Answers -/

theorem offer_of_mem {name : String} (h : name ∈ t.table.keys) (target : String) :
    t.offer name target = (t, false) := by
  rw [offer, if_pos (Table.contains_iff.2 h)]

theorem offer_of_not_mem {name : String} (h : name ∉ t.table.keys) (target : String) :
    t.offer name target = (t.override name target, true) := by
  rw [offer, if_neg (mt Table.contains_iff.1 h)]

theorem offer_new_iff (t : Targets) (name target : String) :
    (t.offer name target).2 = true ↔ name ∉ t.table.keys := by
  by_cases h : name ∈ t.table.keys
  · simp [offer_of_mem h, h]
  · simp [offer_of_not_mem h, h]

private theorem registerScalars_scalar (t : Targets) (name : String) (definitions : List Schema.Definition) :
    t.registerScalars (.scalar name :: definitions) =
      (((t.offer name scalarTarget).1.registerScalars definitions).1,
        if (t.offer name scalarTarget).2 then name :: ((t.offer name scalarTarget).1.registerScalars definitions).2
        else ((t.offer name scalarTarget).1.registerScalars definitions).2) := rfl

/-- Of the scalars, those without a target are told, each once. -/
theorem registerScalars_new (t : Targets) (definitions : List Schema.Definition) :
    (t.registerScalars definitions).2 = ((scalarNames definitions).filter (· ∉ t.table.keys)).eraseDups := by
  induction definitions generalizing t with
  | nil => rfl
  | cons d definitions ih =>
    cases d with
    | scalar name =>
      rw [registerScalars_scalar, scalarNames_scalar]
      by_cases h : name ∈ t.table.keys
      · rw [offer_of_mem h, List.filter_cons_of_neg (by simpa using h)]
        exact ih t
      · -- the name has a target from now on, so it is not told again
        have hkeys : (t.override name scalarTarget).table.keys = t.table.keys ++ [name] :=
          (Table.keys_put ..).trans (if_neg h)
        have hrest : (scalarNames definitions).filter (· ∉ t.table.keys ++ [name]) =
            ((scalarNames definitions).filter (· ∉ t.table.keys)).filter (!· == name) := by
          rw [List.filter_filter]
          refine List.filter_congr fun n _ => ?_
          by_cases hn : n = name <;> simp [hn]
        rw [offer_of_not_mem h, if_pos rfl, ih, hkeys, hrest, List.filter_cons_of_pos (by simpa using h),
          List.eraseDups_cons]
    | _ => exact ih t

/-- Where all scalars have a target, nothing happens. -/
theorem registerScalars_of_mem_keys {definitions : List Schema.Definition}
    (h : ∀ name ∈ scalarNames definitions, name ∈ t.table.keys) : t.registerScalars definitions = (t, []) := by
  induction definitions with
  | nil => rfl
  | cons d definitions ih =>
    cases d with
    | scalar name =>
      obtain ⟨hname, hnames⟩ := List.forall_mem_cons.1 h
      rw [registerScalars_scalar, offer_of_mem hname, ih hnames]
      rfl
    | _ => exact ih h

/-- A document that was registered once has nothing to add, whatever came since. -/
theorem registerScalars_again (t : Targets) (definitions : List Schema.Definition) (later : List Call) :
    (((t.registerScalars definitions).1.run later).registerScalars definitions) =
      ((t.registerScalars definitions).1.run later, []) := by
  refine registerScalars_of_mem_keys fun name hname => ?_
  have hkeys := keys_after t.table.eraseDups_keys.symm (.register definitions)
  have hnow : name ∈ (t.after (.register definitions)).table.keys := by
    rw [hkeys, List.mem_eraseDups, List.mem_append]
    right
    simpa [Call.names, Call.overrides, Call.offers] using hname
  exact (keys_prefix_run (t.after (.register definitions)) later).subset hnow

/-- After any calls, the targets are what the calls leave behind. From there on no name is taken away; an offer tells
whether the name had no target, and registering a document tells which of its scalars had none, so a document that was
registered once has nothing to add, whatever came since. -/
theorem run_history (o : Options) (calls : List Call) :
    let t := (ofOptions o).run calls
    Records o calls t ∧
      (∀ later, t.table.keys <+: (t.run later).table.keys) ∧
      (∀ name target, (t.offer name target).2 = true ↔ name ∉ t.table.keys) ∧
      (∀ definitions, (t.registerScalars definitions).2 =
        ((scalarNames definitions).filter (· ∉ t.table.keys)).eraseDups) ∧
      ∀ definitions later, ((t.registerScalars definitions).1.run later).registerScalars definitions =
        ((t.registerScalars definitions).1.run later, []) :=
  ⟨(records_ofOptions o).run calls, keys_prefix_run _, offer_new_iff _, registerScalars_new _, registerScalars_again _⟩

/-- A configured target outlasts offers, and an offered one gives way to the next that is put in its place. -/
example :
    ((ofOptions { Options.unset with customTypes := Table.ofList [("Date", "datetime.date")] }).run
      [.register [.scalar "Money", .scalar "Date"], .override "Money" "decimal.Decimal",
        .offer "Money" "float"]).table.entries =
      [("Date", "datetime.date"), ("Money", "decimal.Decimal")] := by decide +kernel

end SchemaBindings.Targets
