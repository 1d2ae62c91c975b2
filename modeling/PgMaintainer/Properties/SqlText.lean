import PgMaintainer.Lexing
import PgMaintainer.Operations.Sql

/-!
# What the server reads

The text of a statement is read back with the server's rule for quoted identifiers: after the
command and its options come the schema, a dot, the table and the end of the text, whatever the
two names are made of.
-/

namespace PgMaintainer

open Lexing

/-! ## The statements as tokens -/

/-- The characters of a statement: blanks, double quotes, and what words are made of. -/
def sqlAlphabet : Alphabet Char where
  quote := '"'
  isBlank c := c ∈ [' ', '\t', '\n', '\r', '\x0b', '\x0c']
  isWord c := c.isAlphanum || c == '_' || c == '$'
  blank_not_quote := by rintro c hc rfl; cases hc
  word_not_quote := by rintro c hc rfl; cases hc
  word_not_blank := by
    intro c hc
    refine decide_eq_false fun hmem => ?_
    simp only [List.mem_cons, List.not_mem_nil, or_false] at hmem
    rcases hmem with rfl | rfl | rfl | rfl | rfl | rfl <;> cases hc

/-- The tables' part of a statement. -/
def targetTokens (schema table : String) : List (Token Char) :=
  [.quoted schema.toList, .symbol '.', .quoted table.toList]

/-- Words with a blank between them. -/
def phrase (words : List String) : List (Token Char) :=
  [.blank ' '].intercalate (words.map fun w => [.word w.toList])

/-- Clauses with a comma and a blank between them. -/
def clauseList (clauses : List (List String)) : List (Token Char) :=
  [.symbol ',', .blank ' '].intercalate (clauses.map phrase)

/-- A VACUUM with an option list. -/
def vacuumCommand (clauses : List (List String)) : List (Token Char) :=
  [.word "VACUUM".toList, .blank ' ', .symbol '('] ++ clauseList clauses ++
    [.symbol ')', .blank ' ']

/-- The clause of a flag. -/
def flagClause (flag : Bool) (words : List String) : List (List String) :=
  if flag then [words] else []

/-- The clause for index cleanup. -/
def indexCleanupClause : Option Bool → List (List String)
  | some true => [["INDEX_CLEANUP", "TRUE"]]
  | some false => [["INDEX_CLEANUP", "FALSE"]]
  | none => []

/-- The clause for the parallel degree. -/
def parallelClause : Option Nat → List (List String)
  | some n => [["PARALLEL", toString n]]
  | none => []

/-- The clauses for what may be left alone during the VACUUM. -/
def skippingClauses (v : VacuumOptions) : List (List String) :=
  flagClause (!v.truncate) ["TRUNCATE", "FALSE"] ++
    (flagClause v.disablePageSkipping ["DISABLE_PAGE_SKIPPING"] ++
      flagClause v.skipLocked ["SKIP_LOCKED"])

namespace Statement

/-- The clauses of the option list, word by word. An ANALYZE has none. -/
def clauses : Statement → List (List String)
  | vacuum v => ["VERBOSE"] ::
      (skippingClauses v ++ (indexCleanupClause v.indexCleanup ++ parallelClause v.parallel))
  | freeze v => ["VERBOSE"] :: ["FREEZE"] ::
      (indexCleanupClause (some (v.indexCleanup.getD false)) ++
        (skippingClauses v ++ parallelClause v.parallel))
  | vacuumAnalyze v => ["VERBOSE"] :: ["ANALYZE"] ::
      (skippingClauses v ++ (indexCleanupClause v.indexCleanup ++ parallelClause v.parallel))
  | analyze => []

/-- The command and the option list. -/
def commandTokens : Statement → List (Token Char)
  | analyze => [.word "ANALYZE".toList, .blank ' ']
  | vacuum v => vacuumCommand (vacuum v).clauses
  | freeze v => vacuumCommand (freeze v).clauses
  | vacuumAnalyze v => vacuumCommand (vacuumAnalyze v).clauses

end Statement

/-! ## The text is the text of the tokens -/

/-- Words with a blank between them. -/
theorem render_phrase (words : List String) :
    render sqlAlphabet (phrase words) = (" ".intercalate words).toList := by
  have hwords : (words.map fun w => [(.word w.toList : Token Char)]).map (render sqlAlphabet) =
      words.map String.toList := by
    rw [List.map_map]
    refine List.map_congr_left fun w _ => ?_
    rw [Function.comp_apply, render, List.flatMap_singleton, Token.text]
  rw [phrase, render_intercalate, hwords, String.toList_intercalate]
  rfl

/-- Clauses with a comma and a blank between them. -/
theorem render_clause_list (clauses : List (List String)) :
    render sqlAlphabet (clauseList clauses) =
      (", ".intercalate (clauses.map (" ".intercalate ·))).toList := by
  have hclauses : (clauses.map phrase).map (render sqlAlphabet) =
      (clauses.map (" ".intercalate ·)).map String.toList := by
    rw [List.map_map, List.map_map]
    exact List.map_congr_left fun words _ => render_phrase words
  rw [clauseList, render_intercalate, hclauses, String.toList_intercalate]
  rfl

/-- `quote_ident` doubles the quote. -/
theorem toList_quoteIdent (s : String) :
    (quoteIdent s).toList = doubled sqlAlphabet.quote s.toList := by
  rw [quoteIdent, String.toList_ofList]
  rfl

/-- The target as the builders write it. -/
theorem render_target (schema table : String) :
    render sqlAlphabet (targetTokens schema table) =
      ("\"" ++ quoteIdent schema ++ "\".\"" ++ quoteIdent table ++ "\"").toList := by
  simp only [String.toList_append, toList_quoteIdent, targetTokens, render, List.flatMap_cons,
    List.flatMap_nil, Token.text]
  simp [sqlAlphabet]

/-- A flag adds its clause, or nothing. -/
theorem push_if_eq (flag : Bool) (opt : String) (words : List String) (opts : List String)
    (hopt : " ".intercalate words = opt) :
    pushIf flag opt opts = opts ++ (flagClause flag words).map (" ".intercalate ·) := by
  subst hopt
  cases flag with
  | false => exact (List.append_nil opts).symm
  | true => rfl

/-- The index clean-up adds its clause, or nothing. -/
theorem push_index_cleanup_eq (opts : List String) (o : Option Bool) :
    pushIndexCleanup opts o = opts ++ (indexCleanupClause o).map (" ".intercalate ·) := by
  rcases o with _ | _ | _
  · exact (List.append_nil opts).symm
  · rfl
  · rfl

/-- The number of workers adds its clause, or nothing. -/
theorem push_parallel_eq (opts : List String) (v : VacuumOptions) :
    pushParallel opts v = opts ++ (parallelClause v.parallel).map (" ".intercalate ·) := by
  unfold pushParallel
  cases v.parallel with
  | none => exact (List.append_nil opts).symm
  | some n => rfl

/-- The last three flags of all builders, in their order. -/
theorem push_skipping_eq (opts : List String) (v : VacuumOptions) :
    pushIf v.skipLocked "SKIP_LOCKED" (pushIf v.disablePageSkipping "DISABLE_PAGE_SKIPPING"
        (pushIf (!v.truncate) "TRUNCATE FALSE" opts)) =
      opts ++ (skippingClauses v).map (" ".intercalate ·) := by
  have htext : " ".intercalate ["TRUNCATE", "FALSE"] = "TRUNCATE FALSE" := by decide
  rw [push_if_eq _ _ ["SKIP_LOCKED"] _ String.intercalate_singleton,
    push_if_eq _ _ ["DISABLE_PAGE_SKIPPING"] _ String.intercalate_singleton,
    push_if_eq _ _ _ _ htext, skippingClauses, List.map_append, List.map_append,
    List.append_assoc, List.append_assoc]

/-- The options of a VACUUM, as the code pushes them. -/
def Statement.opts : Statement → List String
  | vacuum v => vacuumOpts v
  | freeze v => freezeOpts v
  | vacuumAnalyze v => vacuumAnalyzeOpts v
  | analyze => []

/-- The options are the clauses, each with its words put together. -/
theorem opts_eq_clauses (statement : Statement) :
    statement.opts = statement.clauses.map (" ".intercalate ·) := by
  cases statement with
  | vacuum v =>
      simp only [Statement.opts, vacuumOpts, push_skipping_eq, push_index_cleanup_eq,
        push_parallel_eq, Statement.clauses, List.map_cons, List.map_append, List.append_assoc]
      rfl
  | freeze v =>
      simp only [Statement.opts, freezeOpts, push_skipping_eq, push_index_cleanup_eq,
        push_parallel_eq, Statement.clauses, List.map_cons, List.map_append, List.append_assoc]
      rfl
  | vacuumAnalyze v =>
      simp only [Statement.opts, vacuumAnalyzeOpts, push_skipping_eq, push_index_cleanup_eq,
        push_parallel_eq, Statement.clauses, List.map_cons, List.map_append, List.append_assoc]
      rfl
  | analyze => rfl

/-- Tokens are written one after the other. -/
theorem render_append (ts us : List (Token Char)) :
    render sqlAlphabet (ts ++ us) = render sqlAlphabet ts ++ render sqlAlphabet us :=
  List.flatMap_append

/-- The text of a VACUUM is the text of its tokens. -/
theorem render_vacuum_statement (clauses : List (List String)) (schema table : String) :
    render sqlAlphabet (vacuumCommand clauses ++ targetTokens schema table) =
      (vacuumStatement (clauses.map (" ".intercalate ·)) schema table).toList := by
  have hsplit : vacuumStatement (clauses.map (" ".intercalate ·)) schema table =
      "VACUUM (" ++ ", ".intercalate (clauses.map (" ".intercalate ·)) ++ ") " ++
        ("\"" ++ quoteIdent schema ++ "\".\"" ++ quoteIdent table ++ "\"") := by
    simp only [vacuumStatement, String.append_assoc]
    rfl
  rw [hsplit, vacuumCommand, render_append, render_append, render_append, render_clause_list,
    render_target]
  generalize "\"" ++ quoteIdent schema ++ "\".\"" ++ quoteIdent table ++ "\"" = target
  simp only [String.toList_append]
  rfl

/-- The text of a statement is the text of its tokens. -/
theorem render_statement (statement : Statement) (schema table : String) :
    render sqlAlphabet (statement.commandTokens ++ targetTokens schema table) =
      (statement.sql schema table).toList := by
  have hvacuum := fun statement : Statement =>
    opts_eq_clauses statement ▸ render_vacuum_statement statement.clauses schema table
  cases statement with
  | vacuum v => exact hvacuum (.vacuum v)
  | freeze v => exact hvacuum (.freeze v)
  | vacuumAnalyze v => exact hvacuum (.vacuumAnalyze v)
  | analyze =>
      have hsplit : Statement.analyze.sql schema table =
          "ANALYZE " ++ ("\"" ++ quoteIdent schema ++ "\".\"" ++ quoteIdent table ++ "\"") := by
        simp only [Statement.sql, analyzeSql, String.append_assoc]
        rfl
      rw [hsplit, render_append, render_target]
      generalize "\"" ++ quoteIdent schema ++ "\".\"" ++ quoteIdent table ++ "\"" = target
      rw [String.toList_append]
      rfl

/-! ## The round trip -/

/-- A word of letters, digits and underscores. -/
def Plain (w : String) : Prop := w.toList ≠ [] ∧ w.toList.all sqlAlphabet.isWord = true

instance : DecidablePred Plain := fun _ => inferInstanceAs (Decidable (_ ∧ _))

/-- A number is a plain word. -/
theorem plain_toString (n : Nat) : Plain (toString n) := by
  rw [Plain, Nat.toString_eq_ofList_toDigits, String.toList_ofList]
  refine ⟨Nat.toDigits_ne_nil, List.all_eq_true.2 fun c hc => ?_⟩
  have hdigit := Nat.isDigit_of_mem_toDigits (by decide) (by decide) hc
  simp [sqlAlphabet, Char.isAlphanum, hdigit]

/-- A plain word reads back. -/
theorem Plain.valid {w : String} (h : Plain w) : (Token.word w.toList).Valid sqlAlphabet :=
  ⟨h.1, List.all_eq_true.1 h.2⟩

/-- Every word of a list of clauses is plain. -/
def AllPlain (clauses : List (List String)) : Prop := ∀ words ∈ clauses, ∀ w ∈ words, Plain w

/-- Clauses of plain words stay so when they are put together. -/
theorem AllPlain.append {clauses clauses' : List (List String)} (h : AllPlain clauses)
    (h' : AllPlain clauses') : AllPlain (clauses ++ clauses') := fun words hmem =>
  (List.mem_append.1 hmem).elim (h words) (h' words)

/-- One more clause of plain words. -/
theorem AllPlain.cons {words : List String} {clauses : List (List String)}
    (hwords : ∀ w ∈ words, Plain w) (h : AllPlain clauses) : AllPlain (words :: clauses) :=
  List.forall_mem_cons.2 ⟨hwords, h⟩

/-- A flag's clause is plain if its words are. -/
theorem flag_clause_plain (flag : Bool) {words : List String} (h : ∀ w ∈ words, Plain w) :
    AllPlain (flagClause flag words) := by
  cases flag with
  | false => exact fun _ hmem => absurd hmem List.not_mem_nil
  | true => exact AllPlain.cons h fun _ hmem => absurd hmem List.not_mem_nil

/-- So is that of the index clean-up. -/
theorem index_cleanup_clause_plain (o : Option Bool) : AllPlain (indexCleanupClause o) := by
  rcases o with _ | _ | _ <;> unfold AllPlain indexCleanupClause <;> decide

/-- So is that of the workers, a number included. -/
theorem parallel_clause_plain (o : Option Nat) : AllPlain (parallelClause o) := by
  cases o with
  | none => exact fun _ hmem => absurd hmem List.not_mem_nil
  | some n =>
      refine AllPlain.cons (fun w hw => ?_) fun _ hmem => absurd hmem List.not_mem_nil
      rcases List.mem_cons.1 hw with rfl | hw
      · decide
      · obtain rfl := List.mem_singleton.1 hw
        exact plain_toString n

/-- So are the last three. -/
theorem skipping_clauses_plain (v : VacuumOptions) : AllPlain (skippingClauses v) :=
  (flag_clause_plain _ (by decide)).append
    ((flag_clause_plain _ (by decide)).append (flag_clause_plain _ (by decide)))

/-- Every word of every clause is plain. -/
theorem clauses_plain (statement : Statement) : AllPlain statement.clauses := by
  cases statement with
  | vacuum v =>
      exact AllPlain.cons (by decide) ((skipping_clauses_plain v).append
        ((index_cleanup_clause_plain _).append (parallel_clause_plain _)))
  | freeze v =>
      exact AllPlain.cons (by decide) (AllPlain.cons (by decide)
        ((index_cleanup_clause_plain _).append
          ((skipping_clauses_plain v).append (parallel_clause_plain _))))
  | vacuumAnalyze v =>
      exact AllPlain.cons (by decide) (AllPlain.cons (by decide)
        ((skipping_clauses_plain v).append
          ((index_cleanup_clause_plain _).append (parallel_clause_plain _))))
  | analyze => exact fun _ hmem => absurd hmem List.not_mem_nil

/-- Tokens that are read as they are written. -/
def ReadsBack (ts : List (Token Char)) : Prop :=
  (∀ t ∈ ts, t.Valid sqlAlphabet) ∧ ts.IsChain Token.CanFollow

/-- With blanks and symbols between them, lists that are read as they are written can be put
together. -/
theorem ReadsBack.intercalate {sep : List (Token Char)} {tss : List (List (Token Char))}
    (hne : sep ≠ []) (hsep : ∀ t ∈ sep, t.Valid sqlAlphabet ∧ t.closed = true)
    (htss : ∀ ts ∈ tss, ReadsBack ts) : ReadsBack (sep.intercalate tss) :=
  ⟨forall_mem_intercalate (fun t ht => (hsep t ht).1) fun ts hts => (htss ts hts).1,
    isChain_intercalate hne (fun t ht => (hsep t ht).2) fun ts hts => (htss ts hts).2⟩

/-- The same for two lists. -/
theorem ReadsBack.append {ts sep us : List (Token Char)} (hts : ReadsBack ts) (hne : sep ≠ [])
    (hsep : ∀ t ∈ sep, t.Valid sqlAlphabet ∧ t.closed = true) (hus : ReadsBack us) :
    ReadsBack (ts ++ sep ++ us) := by
  refine ⟨fun t ht => ?_, isChain_append_separator hne (fun t ht => (hsep t ht).2) hts.2 hus.2⟩
  rcases List.mem_append.1 ht with ht | ht
  · exact (List.mem_append.1 ht).elim (hts.1 t) fun h => (hsep t h).1
  · exact hus.1 t ht

/-- A phrase of plain words reads back. -/
theorem reads_phrase {words : List String} (h : ∀ w ∈ words, Plain w) :
    ReadsBack (phrase words) := by
  refine ReadsBack.intercalate (List.cons_ne_nil _ _) (fun t ht => ?_) fun ts hts => ?_
  · obtain rfl := List.mem_singleton.1 ht
    exact ⟨rfl, rfl⟩
  · obtain ⟨w, hw, rfl⟩ := List.mem_map.1 hts
    exact ⟨List.forall_mem_singleton.2 (h w hw).valid, List.isChain_singleton _⟩

/-- A list of plain clauses reads back. -/
theorem reads_clause_list {clauses : List (List String)} (h : AllPlain clauses) :
    ReadsBack (clauseList clauses) := by
  refine ReadsBack.intercalate (List.cons_ne_nil _ _) (fun t ht => ?_) fun ts hts => ?_
  · rcases List.mem_cons.1 ht with rfl | ht
    · exact ⟨⟨rfl, rfl, by decide⟩, rfl⟩
    · obtain rfl := List.mem_singleton.1 ht
      exact ⟨rfl, rfl⟩
  · obtain ⟨words, hwords, rfl⟩ := List.mem_map.1 hts
    exact reads_phrase (h words hwords)

/-- The target reads back, whatever the names are. -/
theorem reads_target (schema table : String) : ReadsBack (targetTokens schema table) := by
  have hdot : (Token.symbol '.').Valid sqlAlphabet ∧ (Token.symbol '.').closed = true :=
    ⟨⟨rfl, rfl, by decide⟩, rfl⟩
  have hname : ∀ name, ReadsBack [.quoted name] := fun name =>
    ⟨List.forall_mem_singleton.2 trivial, List.isChain_singleton _⟩
  exact (hname schema.toList).append (List.cons_ne_nil _ _)
    (List.forall_mem_singleton.2 hdot) (hname table.toList)

/-- A whole statement reads back. -/
theorem reads_vacuum {clauses : List (List String)} (h : AllPlain clauses)
    (schema table : String) : ReadsBack (vacuumCommand clauses ++ targetTokens schema table) := by
  have hword : ReadsBack [.word "VACUUM".toList] :=
    ⟨List.forall_mem_singleton.2 (by decide : Plain "VACUUM").valid, List.isChain_singleton _⟩
  have hopening : ∀ t ∈ [Token.blank ' ', Token.symbol '('],
      t.Valid sqlAlphabet ∧ t.closed = true :=
    List.forall_mem_cons.2 ⟨⟨rfl, rfl⟩,
      List.forall_mem_singleton.2 ⟨⟨rfl, rfl, by decide⟩, rfl⟩⟩
  have hclosing : ∀ t ∈ [Token.symbol ')', Token.blank ' '],
      t.Valid sqlAlphabet ∧ t.closed = true :=
    List.forall_mem_cons.2 ⟨⟨⟨rfl, rfl, by decide⟩, rfl⟩,
      List.forall_mem_singleton.2 ⟨rfl, rfl⟩⟩
  have hcommand := hword.append (List.cons_ne_nil _ _) hopening (reads_clause_list h)
  exact hcommand.append (List.cons_ne_nil _ _) hclosing (reads_target schema table)

/-- The tokens of every statement are read as they are written. -/
theorem reads_statement (statement : Statement) (schema table : String) :
    ReadsBack (statement.commandTokens ++ targetTokens schema table) := by
  have hvacuum := fun statement : Statement =>
    reads_vacuum (clauses_plain statement) schema table
  cases statement with
  | vacuum v => exact hvacuum (.vacuum v)
  | freeze v => exact hvacuum (.freeze v)
  | vacuumAnalyze v => exact hvacuum (.vacuumAnalyze v)
  | analyze =>
      have hword : ReadsBack [.word "ANALYZE".toList] :=
        ⟨List.forall_mem_singleton.2 (by decide : Plain "ANALYZE").valid,
          List.isChain_singleton _⟩
      have hblank : ∀ t ∈ [Token.blank ' '], t.Valid sqlAlphabet ∧ t.closed = true :=
        List.forall_mem_singleton.2 ⟨rfl, rfl⟩
      exact hword.append (List.cons_ne_nil _ _) hblank (reads_target schema table)

/-- Whatever the names are, the server reads the command and its options, then the schema, a
dot, the table and nothing else; so two tables never share a statement. -/
theorem statement_names_its_table (statement : Statement) :
    (∀ schema table : String,
      lex sqlAlphabet (statement.sql schema table).toList =
        some (statement.commandTokens ++
          [.quoted schema.toList, .symbol '.', .quoted table.toList])) ∧
      Function.Injective fun table : TableKey => statement.sql table.1 table.2 := by
  have hlex : ∀ schema table : String, lex sqlAlphabet (statement.sql schema table).toList =
      some (statement.commandTokens ++ targetTokens schema table) := by
    intro schema table
    obtain ⟨hvalid, hchain⟩ := reads_statement statement schema table
    rw [← render_statement, lex_render hvalid hchain]
  refine ⟨hlex, fun table table' heq => ?_⟩
  have htokens : targetTokens table.1 table.2 = targetTokens table'.1 table'.2 := by
    have hread' : lex sqlAlphabet (statement.sql table.1 table.2).toList =
        some (statement.commandTokens ++ targetTokens table'.1 table'.2) :=
      (congrArg (fun s : String => lex sqlAlphabet s.toList) heq).trans (hlex _ _)
    exact List.append_cancel_left (Option.some.inj ((hlex _ _).symm.trans hread'))
  simp only [targetTokens, List.cons.injEq, Token.quoted.injEq, String.toList_inj] at htokens
  exact Prod.ext htokens.1 htokens.2.2.1

end PgMaintainer
