import PgMaintainer.Operations.Discovery
import PgMaintainer.Ranking
import PgMaintainer.Rules
import PgMaintainer.Run.Server
import PgMaintainer.Startup.AlsoTables

/-!
# The explicit tables of a run

From the entries of `--also-tables` to the tables that are maintained: nothing is lost, repeated or
reordered on the way, and what is left out is blank, out of scope or not there.
-/

namespace PgMaintainer

open Interaction Ranking

/-! ## The entries -/

/-- An entry that says nothing. -/
def Blank (raw : String) : Prop := Text.trim raw.toList = []

instance (raw : String) : Decidable (Blank raw) := inferInstanceAs (Decidable (_ = _))

/-- The trimmed entry has one `.`, and a text on both sides of it. -/
def IsQualified (raw : String) : Prop :=
  ∃ schema table : Text, Text.trim raw.toList = schema ++ '.' :: table ∧ '.' ∉ schema ∧ '.' ∉ table ∧
    schema ≠ [] ∧ table ≠ []

/-- The trimmed entry is the table's name behind its schema and a `.`. -/
def Names (t : ExplicitTable) (raw : String) : Prop :=
  Text.trim raw.toList = t.schemaName.toList ++ '.' :: t.tableName.toList

instance (t : ExplicitTable) (raw : String) : Decidable (Names t raw) :=
  inferInstanceAs (Decidable (_ = _))

/-- An entry that names a table is not blank. -/
theorem Names.not_blank {t : ExplicitTable} {raw : String} (h : Names t raw) : ¬Blank raw := by
  intro hblank
  rw [Blank, h] at hblank
  exact List.append_ne_nil_of_right_ne_nil _ (List.cons_ne_nil _ _) hblank

/-- The one cut of a text with one `.`. -/
theorem cut_unique {schema table schema' table' : Text} (h : '.' ∉ schema) (h' : '.' ∉ schema')
    (heq : schema ++ '.' :: table = schema' ++ '.' :: table') :
    schema = schema' ∧ table = table' := by
  have hcut := Text.split_once_append h table
  rw [heq, Text.split_once_append h'] at hcut
  cases hcut
  exact ⟨rfl, rfl⟩

/-- A schema and a table with a dot between them are accepted. -/
theorem of_entry_of_qualified {schema table : Text} (hschema : '.' ∉ schema)
    (htable : '.' ∉ table) (hleft : schema ≠ []) (hright : table ≠ []) :
    ExplicitTable.ofEntry (schema ++ '.' :: table) =
      .ok ⟨String.ofList schema, String.ofList table⟩ := by
  have hcut := Text.split_once_append hschema table
  simp only [ExplicitTable.ofEntry, hcut, hleft, hright, htable, or_self, if_false]

/-- An entry is taken if it is qualified. -/
theorem is_qualified_of_entry {raw : String} {t : ExplicitTable}
    (h : ExplicitTable.ofEntry (Text.trim raw.toList) = .ok t) : IsQualified raw := by
  unfold ExplicitTable.ofEntry at h
  obtain ⟨-, hnone⟩ | ⟨schema, table, htrim, hschema, hsome⟩ :=
    Text.split_once_cases '.' (Text.trim raw.toList)
  · rw [hnone] at h
    cases h
  · rw [hsome] at h
    simp only at h
    split at h
    · cases h
    case isFalse hboth =>
      obtain ⟨hleft, hright⟩ := not_or.1 hboth
      split at h
      · cases h
      case isFalse htable =>
        exact ⟨schema, table, htrim, hschema, htable, hleft, hright⟩

/-- The table an entry is taken for is the one it names. -/
theorem of_entry_iff_names {raw : String} (hraw : IsQualified raw) (t : ExplicitTable) :
    ExplicitTable.ofEntry (Text.trim raw.toList) = .ok t ↔ Names t raw := by
  obtain ⟨schema, table, htrim, hschema, htable, hleft, hright⟩ := hraw
  rw [htrim, of_entry_of_qualified hschema htable hleft hright, Names, htrim]
  constructor
  · intro h
    cases h
    rw [String.toList_ofList, String.toList_ofList]
  · intro h
    have hdots : '.' ∉ t.schemaName.toList := by
      intro hdot
      have hcount := congrArg (List.count '.') h
      have hpos := List.count_pos_iff.2 hdot
      have hnone := List.count_eq_zero.2 hschema
      have hnone' := List.count_eq_zero.2 htable
      simp only [List.count_append, List.count_cons_self] at hcount
      omega
    obtain ⟨rfl, rfl⟩ := cut_unique hschema hdots h
    rw [String.ofList_toList, String.ofList_toList]

/-! ## The loop -/

/-- The tables that the entries name, one for each that is not blank. -/
def named (entries : List String) : List ExplicitTable :=
  entries.filterMap fun raw =>
    if Blank raw then none else (ExplicitTable.ofEntry (Text.trim raw.toList)).toOption

section Loop

variable {out result : List ExplicitTable} {raw : String} {entries : List String}

/-- Blank entries are left out. -/
theorem parse_from_blank (h : Blank raw) :
    ExplicitTable.parseFrom out (raw :: entries) = ExplicitTable.parseFrom out entries := by
  rw [ExplicitTable.parseFrom]
  exact if_pos h

/-- Any other is read, and taken if it is new. -/
theorem parse_from_entry (h : ¬Blank raw) :
    ExplicitTable.parseFrom out (raw :: entries) = (do
      let candidate ← ExplicitTable.ofEntry (Text.trim raw.toList)
      ExplicitTable.parseFrom (if candidate ∈ out then out else out ++ [candidate]) entries) := by
  rw [ExplicitTable.parseFrom]
  exact if_neg h

/-- One table more: it is kept if it is new. -/
theorem append_firsts_of (candidate : ExplicitTable) (rest : List ExplicitTable) :
    (if candidate ∈ out then out else out ++ [candidate]) ++
        firstsOf id (if candidate ∈ out then out else out ++ [candidate]) rest =
      out ++ firstsOf id out (candidate :: rest) := by
  by_cases hmem : candidate ∈ out
  · rw [if_pos hmem, firstsOf, if_pos (show id candidate ∈ out from hmem)]
  · have hseen : ∀ t, t ∈ out ++ [candidate] ↔ t ∈ id candidate :: out := by
      intro t
      simp only [List.mem_append, List.mem_cons, List.not_mem_nil, or_false, id]
      exact or_comm
    rw [if_neg hmem, firstsOf, if_neg (show id candidate ∉ out from hmem), firstsOf_congr hseen,
      List.append_assoc]
    rfl

/-- What an entry that says something adds to the list of what is named. -/
theorem named_cons (hblank : ¬Blank raw) (hraw : IsQualified raw) :
    ∃ first, named (raw :: entries) = first :: named entries ∧ ∀ t, first = t ↔ Names t raw := by
  obtain ⟨schema, table, htrim, hschema, htable, hleft, hright⟩ := hraw
  have hentry := of_entry_of_qualified hschema htable hleft hright
  rw [← htrim] at hentry
  refine ⟨⟨String.ofList schema, String.ofList table⟩, List.filterMap_cons_some ?_, fun t => ?_⟩
  · rw [if_neg hblank, hentry]
    rfl
  · rw [← of_entry_iff_names ⟨schema, table, htrim, hschema, htable, hleft, hright⟩, hentry]
    exact ⟨fun heq => by rw [heq], fun heq => by cases heq; rfl⟩

/-- The loop keeps the first of each table that is named. -/
theorem parse_from_qualified (h : ∀ raw ∈ entries, ¬Blank raw → IsQualified raw) :
    ExplicitTable.parseFrom out entries = .ok (out ++ firstsOf id out (named entries)) := by
  induction entries generalizing out with
  | nil =>
      show Except.ok out = .ok (out ++ [])
      rw [List.append_nil]
  | cons raw entries ih =>
      obtain ⟨hraw, hrest⟩ := List.forall_mem_cons.1 h
      by_cases hblank : Blank raw
      · have hnone : named (raw :: entries) = named entries :=
          List.filterMap_cons_none (if_pos hblank)
        rw [parse_from_blank hblank, hnone]
        exact ih hrest
      · obtain ⟨first, hcons, hfirst⟩ := named_cons hblank (hraw hblank)
        have hentry := (of_entry_iff_names (hraw hblank) first).2 ((hfirst first).1 rfl)
        rw [parse_from_entry hblank, hentry, hcons, ← append_firsts_of]
        exact ih hrest

/-- The loop comes to its end if every entry that says something is qualified. -/
theorem qualified_of_parse_from (h : ExplicitTable.parseFrom out entries = .ok result) :
    ∀ raw ∈ entries, ¬Blank raw → IsQualified raw := by
  induction entries generalizing out with
  | nil => exact fun _ hraw => absurd hraw List.not_mem_nil
  | cons raw entries ih =>
      by_cases hblank : Blank raw
      · rw [parse_from_blank hblank] at h
        exact List.forall_mem_cons.2 ⟨fun hsays => absurd hblank hsays, ih h⟩
      · rw [parse_from_entry hblank] at h
        cases hentry : ExplicitTable.ofEntry (Text.trim raw.toList) with
        | error text =>
            rw [hentry] at h
            cases h
        | ok candidate =>
            rw [hentry] at h
            exact List.forall_mem_cons.2 ⟨fun _ => is_qualified_of_entry hentry, ih h⟩

/-- The tables of a list are those its entries name. -/
theorem mem_named (h : ∀ raw ∈ entries, ¬Blank raw → IsQualified raw) (t : ExplicitTable) :
    t ∈ named entries ↔ ∃ raw ∈ entries, Names t raw := by
  rw [named, List.mem_filterMap]
  refine exists_congr fun raw => and_congr_right fun hraw => ?_
  by_cases hblank : Blank raw
  · rw [if_pos hblank]
    exact ⟨fun hnone => absurd hnone (by simp), fun hnames => absurd hblank hnames.not_blank⟩
  · rw [if_neg hblank, ← of_entry_iff_names (h raw hraw hblank)]
    cases ExplicitTable.ofEntry (Text.trim raw.toList) with
    | error text => simp [Except.toOption]
    | ok candidate => simp [Except.toOption]

/-- The first of two tables to be named is the first in the list of what is named. -/
theorem named_order (h : ∀ raw ∈ entries, ¬Blank raw → IsQualified raw) {t u : ExplicitTable}
    (hlt : (named entries).idxOf t < (named entries).idxOf u) :
    entries.findIdx (Names t ·) < entries.findIdx (Names u ·) := by
  induction entries with
  | nil => exact absurd hlt (lt_irrefl _)
  | cons raw entries ih =>
      obtain ⟨hraw, hrest⟩ := List.forall_mem_cons.1 h
      rw [List.findIdx_cons, List.findIdx_cons]
      by_cases hblank : Blank raw
      · have hnone : named (raw :: entries) = named entries :=
          List.filterMap_cons_none (if_pos hblank)
        have hnot : ∀ t, decide (Names t raw) = false := fun t =>
          decide_eq_false fun hnames => hnames.not_blank hblank
        rw [hnone] at hlt
        rw [hnot t, hnot u]
        exact Nat.succ_lt_succ (ih hrest hlt)
      · have hhead : ∃ first, named (raw :: entries) = first :: named entries ∧
            ∀ t, first = t ↔ Names t raw := named_cons hblank (hraw hblank)
        obtain ⟨first, hcons, hfirst⟩ := hhead
        rw [hcons] at hlt
        by_cases hu : first = u
        · rw [hu, List.idxOf_cons_self] at hlt
          exact absurd hlt (Nat.not_lt_zero _)
        rw [decide_eq_false (mt (hfirst u).2 hu)]
        by_cases ht : first = t
        · rw [decide_eq_true ((hfirst t).1 ht)]
          exact Nat.succ_pos _
        · rw [List.idxOf_cons_ne _ ht, List.idxOf_cons_ne _ hu] at hlt
          rw [decide_eq_false (mt (hfirst t).2 ht)]
          exact Nat.succ_lt_succ (ih hrest (Nat.lt_of_succ_lt_succ hlt))

end Loop

/-! ## The tables that exist -/

/-- The world of a server that has these tables. To the query for explicit tables it returns those
of the requested pairs that exist, in any order and any number; the call may fail, too. -/
def holding (existing : TableKey → Bool) : World session where
  State := Unit
  Drift _ _ := False
  Answers _ op answer _ :=
    match op with
    | .call (.findExplicitTables schemas tables) =>
      ∀ rows, answer = .ok rows →
        ∀ key, key ∈ rows ↔ key ∈ schemas.zip tables ∧ existing key = true
    | _ => True

/-- What is left of a list of explicit tables. -/
def maintainable (existing : TableKey → Bool) (schemas : List String)
    (requested : List ExplicitTable) : List ExplicitTable :=
  requested.filter fun t =>
    t.schemaName ∈ schemas ∧ t.schemaName ≠ logbookSchemaName ∧ existing t.key = true

/-- The requested pairs are the keys of the tables asked for. -/
theorem mem_requested_pairs {tables : List ExplicitTable} {t : ExplicitTable} (ht : t ∈ tables) :
    t.key ∈ (tables.map (·.schemaName)).zip (tables.map (·.tableName)) := by
  rw [List.zip_map']
  exact List.mem_map_of_mem ht

/-- The query is for the tables in scope, and what it does not return is left out. A failed query
fails the run. -/
theorem wp_resolve_maintainable (existing : TableKey → Bool) (requested : List ExplicitTable)
    (schemas : List String) :
    wp (holding existing) (fun _ _ => True) (resolveExplicitTables requested schemas)
      (fun tables _ _ => tables = maintainable existing schemas requested)
      (fun _ past _ => ∃ c err, (⟨(), .call c, .error err⟩ : Moment (holding existing)) ∈ past) []
      () := by
  have hscope : (requested.filter (inScope schemas)).filter (fun t => existing t.key) =
      maintainable existing schemas requested := by
    rw [List.filter_filter, maintainable]
    refine List.filter_congr fun t _ => ?_
    by_cases hlogbook : t.schemaName = logbookSchemaName
    · simp [inScope, hlogbook]
    · by_cases hschema : t.schemaName ∈ schemas
      · simp [inScope, hlogbook, hschema]
      · simp [inScope, hschema]
  -- with no table in scope the server is not asked
  refine wp_ite.2 ⟨fun hempty => ?_, fun _ => ?_⟩
  · rw [← hscope, List.isEmpty_iff.1 hempty]
    rfl
  refine wp_bind.2 (wp_queryContext.2 (wp_call.2 ?_))
  intro now _ answer after hanswer
  refine ⟨trivial, ?_⟩
  cases answer with
  | error err => exact ⟨_, err, List.mem_singleton.2 rfl⟩
  | ok rows =>
      show List.filter (fun t : ExplicitTable => List.contains rows t.key) _ = _
      rw [← hscope]
      refine List.filter_congr fun t ht => ?_
      have hrows := hanswer rows rfl t.key
      have hasked : t.key ∈ rows ↔ existing t.key = true :=
        hrows.trans (and_iff_right (mem_requested_pairs ht))
      rw [Bool.eq_iff_iff, List.contains_iff_mem, hasked]

/-- The list is parsed if and only if every entry that is not blank is qualified. The tables that
come out are those the entries name, none twice, in the order in which they are first named. Of
these, the run maintains those that exist, in a schema of the run and outside the logbook, in the
same order. -/
theorem explicit_table_list :
    (∀ entries, (∃ tables, ExplicitTable.parseList entries = .ok tables) ↔
      ∀ raw ∈ entries, ¬Blank raw → IsQualified raw) ∧
    (∀ entries tables, ExplicitTable.parseList entries = .ok tables → tables.Nodup ∧
      (∀ t, t ∈ tables ↔ ∃ raw ∈ entries, Names t raw) ∧
      tables.Pairwise fun t u => entries.findIdx (Names t ·) < entries.findIdx (Names u ·)) ∧
    ∀ existing requested schemas tr, ∀ tables : List ExplicitTable,
      Exec (holding existing) () (resolveExplicitTables requested schemas) tr () (.pure tables) →
        tables = maintainable existing schemas requested := by
  refine ⟨fun entries => ⟨fun ⟨tables, h⟩ => qualified_of_parse_from h, fun h => ?_⟩, ?_, ?_⟩
  · exact ⟨_, parse_from_qualified h⟩
  · intro entries tables h
    have hqualified := qualified_of_parse_from h
    rw [ExplicitTable.parseList, parse_from_qualified hqualified] at h
    cases h
    rw [List.nil_append]
    refine ⟨?_, fun t => ?_, ?_⟩
    · have hnodup : ((firstsOf id [] (named entries)).map id).Nodup := nodup_firstsOf _
      rwa [List.map_id] at hnodup
    · rw [← mem_named hqualified, mem_firstsOf_id]
      exact and_iff_right List.not_mem_nil
    · exact (pairwise_firstsOf (named entries)).imp (named_order hqualified)
  · intro existing requested schemas tr tables hexec
    obtain ⟨_, -, h⟩ := hexec.returned (wp_resolve_maintainable existing requested schemas)
    exact h

/-- Four entries, one of them blank and two of the same table. -/
def fourEntries : List String := [" public.b ", "", "audit.a", "public.b"]

/-- A server with every table. -/
def everyTable : (op : Op) → op.Answer
  | .call (.findExplicitTables schemas tables) => .ok (schemas.zip tables)
  | op => Server.answer {} op

/-- The answers are those of a server with every table. -/
theorem every_table_holds (op : Op) (state last : (holding fun _ => true).State) :
    (holding fun _ => true).Answers state op (everyTable op) last := by
  unfold everyTable
  split
  · intro rows hrows key
    obtain rfl := Except.ok.inj hrows
    exact (and_iff_left rfl).symm
  · rename_i hother
    cases op with
    | call c =>
        cases c with
        | findExplicitTables schemas tables => exact absurd rfl (hother schemas tables)
        | _ => trivial
    | _ => trivial

/-- The resolution of a list, in a run over `public`. -/
def publicTables (requested : List ExplicitTable) : RunM (List ExplicitTable) :=
  resolveExplicitTables requested ["public"]

/-- What becomes of them there. -/
theorem four_entries_resolved : ∃ tables kept,
    ExplicitTable.parseList fourEntries = .ok tables ∧ tables.Nodup ∧
      tables = [⟨"public", "b"⟩, ⟨"audit", "a"⟩] ∧
      ((publicTables tables).play (holding fun _ => true) (fun _ op => (everyTable op, ())) ()).2.2 =
        .ok kept ∧
      kept = maintainable (fun _ => true) ["public"] tables ∧ kept = [⟨"public", "b"⟩] := by
  obtain ⟨haccepts, hresult, hkeeps⟩ := explicit_table_list
  have hqualified : ∀ raw ∈ fourEntries, ¬Blank raw → IsQualified raw := by
    have hparsed : ExplicitTable.parseList fourEntries =
        .ok [⟨"public", "b"⟩, ⟨"audit", "a"⟩] := by decide
    exact (haccepts fourEntries).1 ⟨_, hparsed⟩
  obtain ⟨tables, hparsed⟩ := (haccepts fourEntries).2 hqualified
  have htables : ExplicitTable.parseList fourEntries =
      .ok [⟨"public", "b"⟩, ⟨"audit", "a"⟩] := by decide
  have hnodup := (hresult _ _ hparsed).1
  rw [hparsed] at htables
  cases htables
  have hexec := Prog.exec_play (W := holding fun _ => true) (fun _ op => (everyTable op, ()))
    (fun _ op => every_table_holds op _ _) (publicTables [⟨"public", "b"⟩, ⟨"audit", "a"⟩]) ()
  have hplayed : ((publicTables [⟨"public", "b"⟩, ⟨"audit", "a"⟩]).play (holding fun _ => true)
      (fun _ op => (everyTable op, ())) ()).2.2 = .ok [⟨"public", "b"⟩] := by
    rfl
  rw [hplayed] at hexec
  exact ⟨_, _, hparsed, hnodup, rfl, hplayed, hkeeps _ _ _ _ _ hexec, rfl⟩

end PgMaintainer
