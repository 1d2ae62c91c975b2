import Mathlib.Data.List.Chain

/-!
# Words, symbols and quoted names

A lexer that takes one character at a time. Outside quotes a run of word characters is one
token, a blank or any other character is a token of its own. A quote opens a quoted name; in
it a doubled quote is one quote character, and a single quote closes it.

`lex_render` is the round trip: what is written down from tokens is read as these tokens, if no
two words and no two quoted names stand side by side.
-/

namespace Lexing

variable {α : Type}

/-- The characters a lexer tells apart. The quote is neither a blank nor part of a word. -/
structure Alphabet (α : Type) where
  quote : α
  isBlank : α → Bool
  isWord : α → Bool
  blank_not_quote : ∀ {c}, isBlank c = true → c ≠ quote
  word_not_quote : ∀ {c}, isWord c = true → c ≠ quote
  word_not_blank : ∀ {c}, isWord c = true → isBlank c = false

/-- What a text is made of. -/
inductive Token (α : Type) where
  | blank (c : α)
  | word (w : List α)
  | symbol (c : α)
  | quoted (name : List α)
  deriving DecidableEq, Repr

namespace Token

/-- A token the lexer can read. -/
def Valid (A : Alphabet α) : Token α → Prop
  | blank c => A.isBlank c = true
  | word w => w ≠ [] ∧ ∀ c ∈ w, A.isWord c = true
  | symbol c => A.isBlank c = false ∧ A.isWord c = false ∧ c ≠ A.quote
  | quoted _ => True

/-- Whether a token may stand right after another one. -/
def CanFollow : Token α → Token α → Prop
  | word _, word _ => False
  | quoted _, quoted _ => False
  | _, _ => True

/-- Whether a token ends with its last character. A word goes on as long as it can, and a quote
may be the first of a doubled one. -/
def closed : Token α → Bool
  | blank _ => true
  | symbol _ => true
  | _ => false

/-- After a closed token anything can stand. -/
theorem canFollow_of_closed {t u : Token α} (h : t.closed = true) : CanFollow t u := by
  cases t with
  | blank _ => trivial
  | symbol _ => trivial
  | word _ => cases h
  | quoted _ => cases h

/-- A closed token can stand after anything. -/
theorem canFollow_closed {t u : Token α} (h : u.closed = true) : CanFollow t u := by
  cases u with
  | blank _ => cases t <;> trivial
  | symbol _ => cases t <;> trivial
  | word _ => cases h
  | quoted _ => cases h

/-- The token, if it is complete with its last character. -/
def emitted (t : Token α) : List (Token α) := if t.closed then [t] else []

/-- The token, if it is complete only with what follows. -/
def pending (t : Token α) : List (Token α) := if t.closed then [] else [t]

/-- What is emitted and what is pending make up the token. -/
theorem emitted_append_pending (t : Token α) (ts : List (Token α)) :
    emitted t ++ (pending t ++ ts) = t :: ts := by
  cases t <;> rfl

end Token

open Token

variable [DecidableEq α]

/-- Double every quote. -/
def doubled (quote : α) (name : List α) : List α :=
  name.flatMap fun c => if c = quote then [quote, quote] else [c]

/-- How a token is written. -/
def Token.text (A : Alphabet α) : Token α → List α
  | blank c => [c]
  | word w => w
  | symbol c => [c]
  | quoted name => A.quote :: (doubled A.quote name ++ [A.quote])

/-- The text of a list of tokens. -/
def render (A : Alphabet α) (tokens : List (Token α)) : List α := tokens.flatMap (Token.text A)

/-- What the lexer is in the middle of. -/
inductive Mode (α : Type) where
  | between
  | inWord (w : List α)
  | inQuoted (name : List α)
  /-- After a quote inside a quoted name, which closes it or is the first of two. -/
  | afterQuote (name : List α)

section

variable (A : Alphabet α)

/-- A character where a token begins: the tokens it completes, and what it begins. -/
def start (c : α) : List (Token α) × Mode α :=
  if c = A.quote then ([], .inQuoted [])
  else if A.isBlank c then ([blank c], .between)
  else if A.isWord c then ([], .inWord [c])
  else ([symbol c], .between)

/-- One character: the tokens it completes, and what the lexer is in the middle of then. -/
def step (c : α) : Mode α → List (Token α) × Mode α
  | .between => start A c
  | .inWord w =>
    if A.isWord c then ([], .inWord (w ++ [c])) else (word w :: (start A c).1, (start A c).2)
  | .inQuoted name =>
    if c = A.quote then ([], .afterQuote name) else ([], .inQuoted (name ++ [c]))
  | .afterQuote name =>
    if c = A.quote then ([], .inQuoted (name ++ [c]))
    else (quoted name :: (start A c).1, (start A c).2)

/-- The end of the text. A quoted name must be closed by then. -/
def finish : Mode α → Option (List (Token α))
  | .between => some []
  | .inWord w => some [word w]
  | .inQuoted _ => none
  | .afterQuote name => some [quoted name]

/-- Read the rest of a text. -/
def read (m : Mode α) : List α → Option (List (Token α))
  | [] => finish m
  | c :: rest => (read (step A c m).2 rest).map ((step A c m).1 ++ ·)

/-- The tokens of a text. -/
def lex (s : List α) : Option (List (Token α)) := read A .between s

end

/-! ## Reading back what was written -/

section RoundTrip

variable {A : Alphabet α}

/-- What the lexer is in the middle of after the text of a token. -/
def after : Token α → Mode α
  | word w => .inWord w
  | quoted name => .afterQuote name
  | _ => .between

/-- The rest of a word is read into it. -/
theorem read_word (w rest : List α) {v : List α} (hw : ∀ c ∈ w, A.isWord c = true) :
    read A (.inWord v) (w ++ rest) = read A (.inWord (v ++ w)) rest := by
  induction w generalizing v with
  | nil => rw [List.nil_append, List.append_nil]
  | cons c w ih =>
      have hc := hw c List.mem_cons_self
      rw [List.cons_append, read, step, if_pos hc, ih fun d hd => hw d (List.mem_cons_of_mem _ hd),
        List.append_assoc, List.singleton_append]
      exact Option.map_id'

/-- A name with its quotes doubled is read into the open quotes. -/
theorem read_doubled (name rest : List α) {v : List α} :
    read A (.inQuoted v) (doubled A.quote name ++ rest) =
      read A (.inQuoted (v ++ name)) rest := by
  induction name generalizing v with
  | nil => rw [doubled, List.flatMap_nil, List.nil_append, List.append_nil]
  | cons c name ih =>
      have hstep : ∀ s,
          read A (.inQuoted v) ((if c = A.quote then [A.quote, A.quote] else [c]) ++ s) =
            read A (.inQuoted (v ++ [c])) s := by
        intro s
        split
        case isTrue hc => simp [read, step, hc]
        case isFalse hc => simp [read, step, hc]
      rw [doubled, List.flatMap_cons, List.append_assoc, hstep]
      exact (ih (v := v ++ [c])).trans (by rw [List.append_assoc, List.singleton_append])

/-- Between tokens, the text of a token is read as the token. -/
theorem read_text {t : Token α} (ht : t.Valid A) (rest : List α) :
    read A .between (t.text A ++ rest) = (read A (after t) rest).map (emitted t ++ ·) := by
  cases t with
  | blank c =>
      have hc : A.isBlank c = true := ht
      simp [text, read, step, start, A.blank_not_quote hc, hc, after, emitted, closed]
  | symbol c =>
      obtain ⟨hblank, hword, hquote⟩ := ht
      simp [text, read, step, start, hblank, hword, hquote, after, emitted, closed]
  | word w =>
      cases w with
      | nil => exact absurd rfl ht.1
      | cons c w =>
          have hc := ht.2 c List.mem_cons_self
          simp [text, read, step, start, A.word_not_quote hc, A.word_not_blank hc, hc, after,
            emitted, closed, read_word w rest fun d hd => ht.2 d (List.mem_cons_of_mem _ hd)]
  | quoted name =>
      simp [text, read, step, start, after, emitted, closed, read_doubled]

/-- A token that can follow another one completes it. -/
theorem read_after {t u : Token α} (hu : u.Valid A) (h : CanFollow t u) (rest : List α) :
    read A (after t) (u.text A ++ rest) =
      (read A .between (u.text A ++ rest)).map (pending t ++ ·) := by
  -- the first character of the next token is neither a word character after a word nor a
  -- quote after a quote
  cases t with
  | blank c => simp [after, pending, closed]
  | symbol c => simp [after, pending, closed]
  | word w =>
      cases u with
      | word v => exact h.elim
      | blank c =>
          have hc : A.isBlank c = true := hu
          have hword : A.isWord c = false := by
            by_contra hne
            simp [A.word_not_blank (by simpa using hne)] at hc
          simp [after, pending, closed, text, read, step, hword, Function.comp_def]
      | symbol c => simp [after, pending, closed, text, read, step, hu.2.1, Function.comp_def]
      | quoted name =>
          have hword : A.isWord A.quote = false := by
            by_contra hne
            exact A.word_not_quote (by simpa using hne) rfl
          simp [after, pending, closed, text, read, step, hword, Function.comp_def]
  | quoted n =>
      cases u with
      | quoted name => exact h.elim
      | blank c =>
          simp [after, pending, closed, text, read, step, A.blank_not_quote hu, Function.comp_def]
      | symbol c => simp [after, pending, closed, text, read, step, hu.2.2, Function.comp_def]
      | word w =>
          cases w with
          | nil => exact absurd rfl hu.1
          | cons c w =>
              have hc := A.word_not_quote (hu.2 c List.mem_cons_self)
              simp [after, pending, closed, text, read, step, hc, Function.comp_def]

/-- After a token, the text of those that follow is read as them. -/
theorem read_render {t : Token α} {ts : List (Token α)} (hvalid : ∀ u ∈ ts, u.Valid A)
    (hchain : (t :: ts).IsChain CanFollow) :
    read A (after t) (render A ts) = some (pending t ++ ts) := by
  induction ts generalizing t with
  | nil => cases t <;> rfl
  | cons u us ih =>
      obtain ⟨htu, hus⟩ := List.isChain_cons_cons.1 hchain
      have hu := hvalid u List.mem_cons_self
      have hrest := ih (fun v hv => hvalid v (List.mem_cons_of_mem _ hv)) hus
      rw [render, List.flatMap_cons, read_after hu htu, read_text hu, ← render, hrest]
      simp only [Option.map_some, emitted_append_pending]

/-- Tokens that are written down are read back. -/
theorem lex_render {ts : List (Token α)} (hvalid : ∀ t ∈ ts, t.Valid A)
    (hchain : ts.IsChain CanFollow) : lex A (render A ts) = some ts := by
  cases ts with
  | nil => rfl
  | cons t ts =>
      have ht := hvalid t List.mem_cons_self
      have hrest := read_render (fun u hu => hvalid u (List.mem_cons_of_mem _ hu)) hchain
      rw [lex, render, List.flatMap_cons, read_text ht, ← render, hrest]
      simp only [Option.map_some, emitted_append_pending]

end RoundTrip

/-! ## Separated lists -/

section Separated

omit [DecidableEq α]

/-- Around a closed token the two sides do not meet. -/
theorem isChain_append_closed {ts us : List (Token α)} {t : Token α} (ht : t.closed = true)
    (hts : ts.IsChain CanFollow) (hus : us.IsChain CanFollow) :
    (ts ++ t :: us).IsChain CanFollow := by
  refine List.isChain_append.2 ⟨hts, ?_, fun _ _ u hu => ?_⟩
  · cases us with
    | nil => exact List.isChain_singleton _
    | cons u us => exact List.isChain_cons_cons.2 ⟨canFollow_of_closed ht, hus⟩
  · obtain rfl : t = u := by simpa using hu
    exact canFollow_closed ht

/-- Closed tokens separate what stands on either side of them. -/
theorem isChain_append_separator {ts sep us : List (Token α)} (hsep : sep ≠ [])
    (hclosed : ∀ t ∈ sep, t.closed = true) (hts : ts.IsChain CanFollow)
    (hus : us.IsChain CanFollow) : (ts ++ sep ++ us).IsChain CanFollow := by
  induction sep generalizing ts with
  | nil => exact absurd rfl hsep
  | cons t sep ih =>
      have ht := hclosed t List.mem_cons_self
      cases hrest : sep with
      | nil =>
          rw [List.append_assoc, List.singleton_append]
          exact isChain_append_closed ht hts hus
      | cons u us' =>
          have hone : (ts ++ [t]).IsChain CanFollow :=
            isChain_append_closed ht hts List.isChain_nil
          have hmore := ih (by rw [hrest]; exact List.cons_ne_nil _ _)
            (fun u hu => hclosed u (List.mem_cons_of_mem _ hu)) hone
          rwa [List.append_assoc ts, List.singleton_append, hrest] at hmore

/-- Lists that are put together with closed tokens between them. -/
theorem isChain_intercalate {sep : List (Token α)} {tss : List (List (Token α))}
    (hsep : sep ≠ []) (hclosed : ∀ t ∈ sep, t.closed = true)
    (htss : ∀ ts ∈ tss, ts.IsChain CanFollow) :
    (sep.intercalate tss).IsChain CanFollow := by
  induction tss with
  | nil => exact List.isChain_nil
  | cons ts tss ih =>
      have hts := htss ts List.mem_cons_self
      have hrest := ih fun us hus => htss us (List.mem_cons_of_mem _ hus)
      by_cases hnil : tss = []
      · rw [hnil, List.intercalate_singleton]
        exact hts
      · rw [List.intercalate_cons_of_ne_nil hnil]
        exact isChain_append_separator hsep hclosed hts hrest

/-- A property of the tokens of all lists and of what is put between them. -/
theorem forall_mem_intercalate {P : α → Prop} {sep : List α} {tss : List (List α)}
    (hsep : ∀ t ∈ sep, P t) (htss : ∀ ts ∈ tss, ∀ t ∈ ts, P t) :
    ∀ t ∈ sep.intercalate tss, P t := by
  induction tss with
  | nil => exact fun _ h => absurd h List.not_mem_nil
  | cons ts tss ih =>
      have hts := htss ts List.mem_cons_self
      have hrest := ih fun us hus => htss us (List.mem_cons_of_mem _ hus)
      by_cases hnil : tss = []
      · rw [hnil, List.intercalate_singleton]
        exact hts
      · rw [List.intercalate_cons_of_ne_nil hnil]
        intro t ht
        rcases List.mem_append.1 ht with ht | ht
        · exact (List.mem_append.1 ht).elim (hts t) (hsep t)
        · exact hrest t ht

end Separated

/-- The text of lists that are put together is their texts put together. -/
theorem render_intercalate (A : Alphabet α) (sep : List (Token α))
    (tss : List (List (Token α))) :
    render A (sep.intercalate tss) = (render A sep).intercalate (tss.map (render A)) := by
  induction tss with
  | nil => rfl
  | cons ts tss ih =>
      by_cases hnil : tss = []
      · rw [hnil, List.intercalate_singleton, List.map_singleton, List.intercalate_singleton]
      · rw [List.intercalate_cons_of_ne_nil hnil, List.map_cons,
          List.intercalate_cons_of_ne_nil (by simpa using hnil), ← ih]
        simp only [render, List.flatMap_append]

end Lexing
