import XSDK.Shell.Session
import Mathlib.Data.List.Forall2
import Mathlib.Data.List.TakeWhile

/-! The tokenizer in its line buffer. A token is a pointer into the line, and the blank or quote
behind it is overwritten with a NUL. -/
namespace XSDK.Shell.Cli

open List (append_assoc append_nil cons_append cons_ne_nil drop_left exists_cons_of_ne_nil length_append length_cons
  length_nil length_singleton mem_append mem_cons mem_cons_of_mem mem_cons_self nil_append)

/-- What xCLI_Parse_Line returns; the second code is a message. -/
inductive Return where
  | ok
  | noCommand
  | invalidArg
  | bufferFull
  deriving DecidableEq, Repr

def Return.IsError (r : Return) : Prop := r = .invalidArg ∨ r = .bufferFull

instance (r : Return) : Decidable r.IsError := inferInstanceAs (Decidable (_ ∨ _))

def doubleQuote : UInt8 := 0x22
def singleQuote : UInt8 := 0x27

/-- The memory from the line on, the place in it, and the pointers stored in argv. -/
structure Tokenizer where
  line : Text
  p : Nat
  argv : List Nat
  deriving DecidableEq, Repr

/-- How far a loop goes that stops at the first byte for which `go` is false; none when it leaves the memory. -/
def steps (go : UInt8 → Bool) : Text → Option Nat
  | [] => none
  | c :: rest => if go c then (steps go rest).map (· + 1) else some 0

def Tokenizer.moveWhile (go : UInt8 → Bool) (s : Tokenizer) : Option Tokenizer :=
  (steps go (s.line.drop s.p)).map fun n => { s with p := s.p + n }

def Tokenizer.char (s : Tokenizer) : Option UInt8 := s.line[s.p]?

def Tokenizer.terminate (s : Tokenizer) : Tokenizer := { s with line := s.line.set s.p 0, p := s.p + 1 }

def Tokenizer.push (s : Tokenizer) : Tokenizer := { s with argv := s.argv ++ [s.p] }

def skipWhitespace : Tokenizer → Option Tokenizer := Tokenizer.moveWhile isBlank

def consumeQuotedToken (cap : Nat) (closeChar : UInt8) (s : Tokenizer) : Option (Return × Tokenizer) :=
  if cap ≤ s.argv.length then some (.bufferFull, s)
  else do
    let s ← s.push.moveWhile fun c => c ≠ 0 && c ≠ closeChar
    let c ← s.char
    if c = 0 then return (.invalidArg, s) else return (.ok, s.terminate)

def consumeUnquotedChars (s : Tokenizer) : Option Tokenizer := do
  let s ← s.moveWhile fun c => c ≠ 0 && c ≠ space && c ≠ tab
  let c ← s.char
  if c ≠ 0 then return s.terminate else return s

def consumeUnquotedToken (cap : Nat) (s : Tokenizer) : Option (Return × Tokenizer) :=
  if cap ≤ s.argv.length then some (.bufferFull, s)
  else do
    let s ← consumeUnquotedChars s.push
    return (.ok, s)

def consumeToken (cap : Nat) (s : Tokenizer) : Option (Return × Tokenizer) := do
  let c ← s.char
  if c = doubleQuote then consumeQuotedToken cap doubleQuote { s with p := s.p + 1 }
  else if c = singleQuote then consumeQuotedToken cap singleQuote { s with p := s.p + 1 }
  else consumeUnquotedToken cap s

/-- The loop over the line; none when it leaves the memory or takes more than so many rounds. -/
def parseTokens (cap : Nat) : Nat → Tokenizer → Option (Return × Tokenizer)
  | 0, _ => none
  | rounds + 1, s => do
    let c ← s.char
    if c = 0 then return (.ok, s)
    else
      let s ← skipWhitespace s
      let c ← s.char
      if c = 0 then return (.ok, s)
      else
        let (ret, s) ← consumeToken cap s
        if ret ≠ .ok then return (ret, s) else parseTokens cap rounds s

/-- The return code, argc, argv as far as it was written, and the memory. -/
structure Parsed where
  ret : Return
  argc : Nat
  argv : List Nat
  line : Text
  deriving DecidableEq, Repr

def parseLine (line : Text) (argvCapacity : Nat) : Option Parsed :=
  if argvCapacity = 0 then some ⟨.invalidArg, 0, [], line⟩
  else do
    let (ret, s) ← parseTokens argvCapacity line.length ⟨line, 0, []⟩
    if ret ≠ .ok then return ⟨ret, 0, s.argv, s.line⟩
    else if s.argv.length = 0 then return ⟨.noCommand, 0, s.argv, s.line⟩
    else return ⟨.ok, s.argv.length, s.argv, s.line⟩

/- The grammar. -/

def isQuote (c : UInt8) : Bool := c = doubleQuote || c = singleQuote

/-- A word has no blank in it and begins with no quote. -/
structure IsWord (word : Text) : Prop where
  nonempty : word ≠ []
  start : ∀ c, word.head? = some c → isQuote c = false
  plain : ∀ c ∈ word, isBlank c = false

/-- The tokens of a text: words between blanks, and what stands between a quote and the next one like it. -/
inductive Tokens : Text → List Text → Prop where
  | done : Tokens [] []
  | blank {c : UInt8} {text : Text} {ts : List Text} : isBlank c = true → Tokens text ts → Tokens (c :: text) ts
  | last {word : Text} : IsWord word → Tokens word [word]
  | word {word rest : Text} {c : UInt8} {ts : List Text} : IsWord word → isBlank c = true → Tokens rest ts →
      Tokens (word ++ c :: rest) (word :: ts)
  | quoted {q : UInt8} {body rest : Text} {ts : List Text} : isQuote q = true → q ∉ body → Tokens rest ts →
      Tokens (q :: (body ++ q :: rest)) (body :: ts)

/-- The text ends within a quote. -/
inductive Unterminated : Text → Prop where
  | opened {q : UInt8} {body : Text} : isQuote q = true → q ∉ body → Unterminated (q :: body)
  | blank {c : UInt8} {text : Text} : isBlank c = true → Unterminated text → Unterminated (c :: text)
  | word {word rest : Text} {c : UInt8} : IsWord word → isBlank c = true → Unterminated rest →
      Unterminated (word ++ c :: rest)
  | quoted {q : UInt8} {body rest : Text} : isQuote q = true → q ∉ body → Unterminated rest →
      Unterminated (q :: (body ++ q :: rest))

theorem isQuote_plain (quote : isQuote c = true) : isBlank c = false := by
  rw [isQuote, Bool.or_eq_true, decide_eq_true_eq, decide_eq_true_eq] at quote
  rcases quote with rfl | rfl <;> decide

theorem span_split (p : UInt8 → Bool) (text : Text) :
    ∃ run rest, text = run ++ rest ∧ (∀ c ∈ run, p c = true) ∧ ∀ c, rest.head? = some c → p c = false := by
  induction text with
  | nil => exact ⟨[], [], rfl, fun _ mem => (nomatch mem), fun _ h => (nomatch h)⟩
  | cons c text ih =>
    cases here : p c with
    | false =>
      refine ⟨[], c :: text, rfl, fun _ mem => (nomatch mem), ?_⟩
      rintro d ⟨⟩
      exact here
    | true =>
      obtain ⟨run, rest, rfl, all, stop⟩ := ih
      refine ⟨c :: run, rest, rfl, ?_, stop⟩
      intro d mem
      rcases mem_cons.mp mem with rfl | mem
      · exact here
      · exact all d mem

theorem begins_word {c : UInt8} {text : Text} (plain : isBlank c = false) (unquoted : isQuote c = false) :
    IsWord (c :: text) ∨ ∃ word d rest, c :: text = word ++ d :: rest ∧ IsWord word ∧ isBlank d = true := by
  obtain ⟨run, rest, rfl, all, stop⟩ := span_split (fun c => !isBlank c) text
  have word : IsWord (c :: run) := by
    refine ⟨cons_ne_nil _ _, ?_, ?_⟩
    · rintro d ⟨⟩
      exact unquoted
    · intro d mem
      rcases mem_cons.mp mem with rfl | mem
      · exact plain
      · exact Bool.not_eq_true' _ ▸ all d mem
  cases rest with
  | nil => exact .inl (by rwa [append_nil])
  | cons d rest =>
    refine .inr ⟨c :: run, d, rest, rfl, word, ?_⟩
    have ended := stop d rfl
    simpa using ended

theorem tokens_or_unterminated (text : Text) : (∃ ts, Tokens text ts) ∨ Unterminated text := by
  induction size : text.length using Nat.strongRecOn generalizing text with
  | _ size ih =>
    subst size
    cases text with
    | nil => exact .inl ⟨[], .done⟩
    | cons c text =>
      cases blank : isBlank c with
      | true =>
        rcases ih text.length (Nat.lt_succ_self _) text rfl with ⟨ts, tokens⟩ | opened
        · exact .inl ⟨ts, .blank blank tokens⟩
        · exact .inr (.blank blank opened)
      | false =>
        cases quote : isQuote c with
        | true =>
          by_cases closed : c ∈ text
          · obtain ⟨body, rest, rfl, fresh⟩ := List.eq_append_cons_of_mem closed
            have shorter : rest.length < (c :: (body ++ c :: rest)).length := by
              simp only [length_cons, length_append]
              omega
            rcases ih rest.length shorter rest rfl with ⟨ts, tokens⟩ | opened
            · exact .inl ⟨body :: ts, .quoted quote fresh tokens⟩
            · exact .inr (.quoted quote fresh opened)
          · exact .inr (.opened quote closed)
        | false =>
          rcases begins_word blank quote with word | ⟨word, d, rest, same, isWord, ends⟩
          · exact .inl ⟨_, .last word⟩
          · have shorter : rest.length < (c :: text).length := by
              rw [same]
              simp only [length_cons, length_append]
              omega
            rw [same]
            rcases ih rest.length shorter rest rfl with ⟨ts, tokens⟩ | opened
            · exact .inl ⟨word :: ts, .word isWord ends tokens⟩
            · exact .inr (.word isWord ends opened)

/- The loops. -/

section Loops

variable {go : UInt8 → Bool} {front run rest beyond text : Text} {c : UInt8} {s : Tokenizer} {cap rounds : Nat}

theorem steps_append (all : ∀ d ∈ run, go d = true) (stop : go c = false) :
    steps go (run ++ c :: rest) = some run.length := by
  induction run with
  | nil => rw [nil_append, steps, if_neg (by rw [stop]; decide)]; rfl
  | cons d run ih =>
    rw [cons_append, steps, if_pos (all d mem_cons_self), ih fun e mem => all e (mem_cons_of_mem _ mem)]
    rfl

structure Tokenizer.At (s : Tokenizer) (front text : Text) : Prop where
  line : s.line = front ++ text
  p : s.p = front.length

theorem Tokenizer.At.char (here : s.At front (c :: text)) : s.char = some c := by
  rw [Tokenizer.char, here.line, here.p, List.getElem?_append_right (Nat.le_refl _), Nat.sub_self]
  rfl

theorem Tokenizer.At.move (here : s.At front (run ++ text)) :
    Tokenizer.At { s with p := s.p + run.length } (front ++ run) text :=
  ⟨by rw [append_assoc]; exact here.line, by rw [length_append, ← here.p]⟩

theorem Tokenizer.At.next (here : s.At front (c :: text)) : Tokenizer.At { s with p := s.p + 1 } (front ++ [c]) text :=
  ⟨by rw [append_assoc]; exact here.line, by rw [length_append, ← here.p]; rfl⟩

theorem Tokenizer.At.moveWhile (here : s.At front (run ++ c :: rest))
    (all : ∀ d ∈ run, go d = true) (stop : go c = false) :
    s.moveWhile go = some { s with p := s.p + run.length } := by
  rw [Tokenizer.moveWhile, here.line, here.p, drop_left, steps_append all stop]
  rfl

theorem Tokenizer.At.terminate (here : s.At front (c :: text)) : s.terminate.At (front ++ [0]) text := by
  constructor
  · change s.line.set s.p 0 = _
    rw [here.line, here.p, List.set_append_right _ _ (Nat.le_refl _), Nat.sub_self, append_assoc]
    rfl
  · change s.p + 1 = _
    rw [here.p, length_append]
    rfl

theorem skipWhitespace_blank (here : s.At front (c :: text)) (blank : isBlank c = true) :
    skipWhitespace s = skipWhitespace { s with p := s.p + 1 } := by
  have behind : s.line.drop (s.p + 1) = text := by
    rw [here.line, here.p, List.drop_append]
    simp
  have all : s.line.drop s.p = c :: text := by
    rw [here.line, here.p, drop_left]
  rw [skipWhitespace, Tokenizer.moveWhile, Tokenizer.moveWhile, all, behind, steps, if_pos blank, Option.map_map]
  congr 1
  funext n
  simp only [Function.comp, Tokenizer.mk.injEq, true_and, and_true]
  omega

theorem skipWhitespace_plain (here : s.At front (c :: text)) (plain : isBlank c = false) : skipWhitespace s = some s :=
  @Tokenizer.At.moveWhile isBlank front [] text c s here nofun plain

def afterBlanks (cap rounds : Nat) (s : Tokenizer) : Option (Return × Tokenizer) := do
  let c ← s.char
  if c = 0 then return (.ok, s)
  else
    let (ret, s) ← consumeToken cap s
    if ret ≠ .ok then return (ret, s) else parseTokens cap rounds s

theorem parseTokens_skips (here : s.At front (c :: text)) :
    parseTokens cap (rounds + 1) s = (skipWhitespace s >>= afterBlanks cap rounds) := by
  rw [parseTokens, here.char, Option.bind_eq_bind, Option.bind_some]
  by_cases ended : c = 0
  · subst ended
    rw [if_pos rfl, skipWhitespace_plain here rfl, Option.bind_eq_bind, Option.bind_some, afterBlanks, here.char]
    rfl
  · rw [if_neg ended]
    rfl

theorem parseTokens_blank {d : UInt8} (here : s.At front (c :: d :: text)) (blank : isBlank c = true) :
    parseTokens cap (rounds + 1) s = parseTokens cap (rounds + 1) { s with p := s.p + 1 } := by
  rw [parseTokens_skips here, parseTokens_skips here.next, skipWhitespace_blank here blank]

theorem parseTokens_plain (here : s.At front (c :: text)) (plain : isBlank c = false) (more : c ≠ 0) :
    parseTokens cap (rounds + 1) s =
      consumeToken cap s >>= fun out => if out.1 ≠ .ok then some out else parseTokens cap rounds out.2 := by
  rw [parseTokens_skips here, skipWhitespace_plain here plain, Option.bind_eq_bind, Option.bind_some, afterBlanks,
    here.char,
    Option.bind_eq_bind, Option.bind_some, if_neg more]
  rfl

theorem consumeToken_word {word : Text} (here : s.At front (word ++ c :: rest)) (isWord : IsWord word) (nul : 0 ∉ word)
    (stop : c = 0 ∨ isBlank c = true) (room : s.argv.length < cap) :
    consumeToken cap s = some (.ok,
      if c = 0 then ⟨s.line, s.p + word.length, s.argv ++ [s.p]⟩
      else Tokenizer.terminate ⟨s.line, s.p + word.length, s.argv ++ [s.p]⟩) := by
  obtain ⟨d, more, rfl⟩ := exists_cons_of_ne_nil isWord.nonempty
  have unquoted := isWord.start d rfl
  rw [isQuote, Bool.or_eq_false_iff, decide_eq_false_iff_not, decide_eq_false_iff_not] at unquoted
  have pushed : s.push.At front (d :: more ++ c :: rest) := ⟨here.line, here.p⟩
  have moved := @Tokenizer.At.moveWhile (fun c => c ≠ 0 && c ≠ space && c ≠ tab) _ _ _ _ _ pushed ?_ ?_
  · have reached : Tokenizer.At ⟨s.line, s.p + (d :: more).length, s.argv ++ [s.p]⟩
        (front ++ (d :: more)) (c :: rest) :=
      ⟨pushed.move.line, pushed.move.p⟩
    have shape : consumeToken cap s = consumeUnquotedToken cap s := by
      rw [consumeToken, here.char, Option.bind_eq_bind, Option.bind_some, if_neg unquoted.1, if_neg unquoted.2]
    rw [shape, consumeUnquotedToken, if_neg (Nat.not_le.mpr room), consumeUnquotedChars, moved]
    change (((Tokenizer.char ⟨s.line, s.p + (d :: more).length, s.argv ++ [s.p]⟩).bind _).bind _) = _
    rw [reached.char, Option.bind_some]
    by_cases ended : c = 0
    · rw [if_neg (not_not.mpr ended), if_pos ended]
      rfl
    · rw [if_pos ended, if_neg ended]
      rfl
  · intro e mem
    have plain := isWord.plain e mem
    rw [isBlank, Bool.or_eq_false_iff, decide_eq_false_iff_not, decide_eq_false_iff_not] at plain
    have some : e ≠ 0 := fun zero => nul (zero ▸ mem)
    simp [some, plain.1, plain.2]
  · rcases stop with rfl | blank
    · rfl
    · rw [isBlank, Bool.or_eq_true, decide_eq_true_eq, decide_eq_true_eq] at blank
      rcases blank with rfl | rfl <;> decide

theorem consumeToken_quoted {q : UInt8} {body : Text} (here : s.At front (q :: (body ++ c :: rest)))
    (quote : isQuote q = true) (fresh : q ∉ body) (nul : 0 ∉ body) (stop : c = 0 ∨ c = q) (room : s.argv.length < cap) :
    consumeToken cap s = some
      (if c = 0 then (.invalidArg, ⟨s.line, s.p + 1 + body.length, s.argv ++ [s.p + 1]⟩)
      else (.ok, Tokenizer.terminate ⟨s.line, s.p + 1 + body.length, s.argv ++ [s.p + 1]⟩)) := by
  have shape : consumeToken cap s = consumeQuotedToken cap q { s with p := s.p + 1 } := by
    rw [consumeToken, here.char, Option.bind_eq_bind, Option.bind_some]
    rw [isQuote, Bool.or_eq_true, decide_eq_true_eq, decide_eq_true_eq] at quote
    rcases quote with rfl | rfl
    · rw [if_pos rfl]
    · rw [if_neg (by decide), if_pos rfl]
  have pushed : Tokenizer.At (Tokenizer.push { s with p := s.p + 1 }) (front ++ [q]) (body ++ c :: rest) :=
    ⟨here.next.line, here.next.p⟩
  have moved := @Tokenizer.At.moveWhile (fun c => c ≠ 0 && c ≠ q) _ _ _ _ _ pushed ?_ ?_
  · have reached : Tokenizer.At ⟨s.line, s.p + 1 + body.length, s.argv ++ [s.p + 1]⟩
        (front ++ [q] ++ body) (c :: rest) :=
      ⟨pushed.move.line, pushed.move.p⟩
    rw [shape, consumeQuotedToken, if_neg (Nat.not_le.mpr room), moved]
    change ((Tokenizer.char ⟨s.line, s.p + 1 + body.length, s.argv ++ [s.p + 1]⟩).bind _) = _
    rw [reached.char, Option.bind_some]
    by_cases ended : c = 0
    · rw [if_pos ended, if_pos ended]
      rfl
    · rw [if_neg ended, if_neg ended]
      rfl
  · intro e mem
    have some : e ≠ 0 := fun zero => nul (zero ▸ mem)
    have other : e ≠ q := fun same => fresh (same ▸ mem)
    simp [some, other]
  · rcases stop with rfl | rfl <;> simp

theorem consumeToken_full (here : s.At front (c :: text)) (full : cap ≤ s.argv.length) :
    ∃ s', consumeToken cap s = some (.bufferFull, s') ∧ s'.line = s.line := by
  rw [consumeToken, here.char, Option.bind_eq_bind, Option.bind_some]
  by_cases double : c = doubleQuote
  · rw [if_pos double, consumeQuotedToken, if_pos full]
    exact ⟨_, rfl, rfl⟩
  · rw [if_neg double]
    by_cases single : c = singleQuote
    · rw [if_pos single, consumeQuotedToken, if_pos full]
      exact ⟨_, rfl, rfl⟩
    · rw [if_neg single, consumeUnquotedToken, if_pos full]
      exact ⟨s, rfl, rfl⟩

end Loops

/- Runs over a text. -/

/-- The C string at a pointer, inside the line and ended by a NUL. -/
def PointsTo (line : Text) (size q : Nat) (t : Text) : Prop := q + t.length ≤ size ∧ t ++ [0] <+: line.drop q

/-- The memory in front of a text and behind its NUL is as it was. -/
def Within (front text beyond line : Text) : Prop :=
  ∃ written : Text, written.length = text.length ∧ line = front ++ (written ++ 0 :: beyond)

structure Result (cap : Nat) (s : Tokenizer) (front text beyond : Text) (ts : List Text)
    (out : Return × Tokenizer) : Prop where
  ret : out.1 = if s.argv.length + ts.length ≤ cap then .ok else .bufferFull
  within : Within front text beyond out.2.line
  argv : s.argv.length + ts.length ≤ cap →
    ∃ ps, out.2.argv = s.argv ++ ps ∧ List.Forall₂ (PointsTo out.2.line (front.length + text.length)) ps ts

section Session

variable {text word body rest : Text} {c q : UInt8} {ts argv : List Text} {fuel : Nat}

theorem session_blank (fuel : Nat) (argv : List Text) (text : Text) (blank : isBlank c = true) :
    Shell.parseTokens (fuel + 1) (c :: text) argv = Shell.parseTokens (fuel + 1) text argv := by
  rw [Shell.parseTokens, Shell.parseTokens, List.dropWhile_cons_of_pos blank]

theorem session_plain (fuel : Nat) (argv : List Text) (text : Text) (plain : isBlank c = false) :
    Shell.parseTokens (fuel + 1) (c :: text) argv =
      if maxArgs ≤ argv.length then .error .bufferFull
      else
        match Shell.consumeToken (c :: text) with
        | .error code => .error code
        | .ok (token, rest) => Shell.parseTokens fuel rest (argv ++ [token]) := by
  have opened : (c :: text).dropWhile isBlank = c :: text :=
    List.dropWhile_cons_of_neg (by rw [plain]; exact Bool.false_ne_true)
  rw [Shell.parseTokens, opened]
  all_goals rfl

theorem session_consume_plain (unquoted : isQuote c = false) (text : Text) :
    Shell.consumeToken (c :: text) = .ok (Shell.consumeUnquotedToken (c :: text)) := by
  rw [isQuote, Bool.or_eq_false_iff, decide_eq_false_iff_not, decide_eq_false_iff_not] at unquoted
  unfold Shell.consumeToken
  split
  · rename_i same
    exact absurd (List.cons.inj same).1 unquoted.1
  · rename_i same
    exact absurd (List.cons.inj same).1 unquoted.2
  · rfl

theorem session_consume_quote (quote : isQuote q = true) (text : Text) :
    Shell.consumeToken (q :: text) = Shell.consumeQuotedToken q text := by
  rw [isQuote, Bool.or_eq_true, decide_eq_true_eq, decide_eq_true_eq] at quote
  rcases quote with rfl | rfl <;> rfl

theorem session_quoted (fresh : q ∉ body) (rest : Text) :
    Shell.consumeQuotedToken q (body ++ q :: rest) = .ok (body, rest) := by
  have all : ∀ d ∈ body, decide (d ≠ q) = true := fun d mem => decide_eq_true fun same => fresh (same ▸ mem)
  rw [Shell.consumeQuotedToken, List.dropWhile_append_of_pos all, List.takeWhile_append_of_pos all,
    List.dropWhile_cons_of_neg (by simp), List.takeWhile_cons_of_neg (by simp), append_nil]

theorem session_open (fresh : q ∉ body) : Shell.consumeQuotedToken q body = .error .invalidArg := by
  have all : ∀ d ∈ body, decide (d ≠ q) = true := fun d mem => decide_eq_true fun same => fresh (same ▸ mem)
  rw [Shell.consumeQuotedToken, List.dropWhile_eq_nil_iff.mpr all]

theorem session_word (isWord : IsWord word) (blank : isBlank c = true) (rest : Text) :
    Shell.consumeToken (word ++ c :: rest) = .ok (word, rest) := by
  obtain ⟨d, more, rfl⟩ := exists_cons_of_ne_nil isWord.nonempty
  have all : ∀ e ∈ d :: more, (!isBlank e) = true := fun e mem => by rw [isWord.plain e mem]; rfl
  have ends : ¬(fun e => !isBlank e) c = true := by
    change ¬(!isBlank c) = true
    rw [blank]
    exact Bool.false_ne_true
  rw [cons_append, session_consume_plain (isWord.start d rfl), ← cons_append, Shell.consumeUnquotedToken,
    List.takeWhile_append_of_pos all, List.dropWhile_append_of_pos all,
    @List.takeWhile_cons_of_neg _ (fun e => !isBlank e) c rest ends,
    @List.dropWhile_cons_of_neg _ (fun e => !isBlank e) c rest ends, append_nil, List.tail_cons]

theorem session_last (isWord : IsWord word) : Shell.consumeToken word = .ok (word, []) := by
  obtain ⟨d, more, rfl⟩ := exists_cons_of_ne_nil isWord.nonempty
  have all : ∀ e ∈ d :: more, (!isBlank e) = true := fun e mem => by rw [isWord.plain e mem]; rfl
  rw [session_consume_plain (isWord.start d rfl), Shell.consumeUnquotedToken, List.takeWhile_eq_self_iff.mpr all,
    List.dropWhile_eq_nil_iff.mpr all, List.tail_nil]

theorem session_ended (fuel : Nat) (argv : List Text) : Shell.parseTokens fuel [] argv = .ok argv := by
  cases fuel <;> rfl

theorem session_round {t : Text} (ih : ∀ {fuel : Nat} {argv : List Text}, rest.length ≤ fuel → argv.length ≤ maxArgs →
      Shell.parseTokens fuel rest argv =
        if argv.length + ts.length ≤ maxArgs then .ok (argv ++ ts) else .error .bufferFull)
    (enough : rest.length ≤ fuel) (room : argv.length ≤ maxArgs) :
    (if maxArgs ≤ argv.length then .error .bufferFull else Shell.parseTokens fuel rest (argv ++ [t])) =
      if argv.length + (t :: ts).length ≤ maxArgs then .ok (argv ++ t :: ts) else .error .bufferFull := by
  have count : (argv ++ [t]).length + ts.length = argv.length + (t :: ts).length := by
    rw [length_append, length_singleton, length_cons]
    omega
  by_cases full : maxArgs ≤ argv.length
  · rw [if_pos full, if_neg (by rw [length_cons]; omega)]
  · have fits : (argv ++ [t]).length ≤ maxArgs := by
      rw [length_append, length_singleton]
      omega
    rw [if_neg full, ih enough fits, count, append_assoc, List.singleton_append]

theorem session_tokens (tokens : Tokens text ts) (enough : text.length ≤ fuel) (room : argv.length ≤ maxArgs) :
    Shell.parseTokens fuel text argv =
      if argv.length + ts.length ≤ maxArgs then .ok (argv ++ ts) else .error .bufferFull := by
  induction tokens generalizing fuel argv with
  | done => rw [session_ended, length_nil, Nat.add_zero, if_pos room, append_nil]
  | @blank c text ts blank tokens ih =>
    rw [length_cons] at enough
    obtain ⟨n, rfl⟩ : ∃ n, fuel = n + 1 := ⟨fuel - 1, by omega⟩
    rw [session_blank n argv text blank]
    exact ih (by omega) room
  | @last word isWord =>
    have consumed := session_last isWord
    obtain ⟨d, more, rfl⟩ := exists_cons_of_ne_nil isWord.nonempty
    rw [length_cons] at enough
    obtain ⟨n, rfl⟩ : ∃ n, fuel = n + 1 := ⟨fuel - 1, by omega⟩
    rw [session_plain n argv more (isWord.plain d mem_cons_self), consumed]
    by_cases full : maxArgs ≤ argv.length
    · rw [if_pos full, if_neg (by rw [length_singleton]; omega)]
    · rw [if_neg full, if_pos (by rw [length_singleton]; omega)]
      exact session_ended n _
  | @word word rest c ts isWord blank tokens ih =>
    have consumed := session_word isWord blank rest
    obtain ⟨d, more, rfl⟩ := exists_cons_of_ne_nil isWord.nonempty
    rw [length_append, length_cons, length_cons] at enough
    obtain ⟨n, rfl⟩ : ∃ n, fuel = n + 1 := ⟨fuel - 1, by omega⟩
    rw [cons_append] at consumed ⊢
    rw [session_plain n argv _ (isWord.plain d mem_cons_self), consumed]
    exact session_round ih (by omega) room
  | @quoted q body rest ts quote fresh tokens ih =>
    have consumed := (session_consume_quote quote _).trans (session_quoted fresh rest)
    rw [length_cons, length_append, length_cons] at enough
    obtain ⟨n, rfl⟩ : ∃ n, fuel = n + 1 := ⟨fuel - 1, by omega⟩
    rw [session_plain n argv _ (isQuote_plain quote), consumed]
    exact session_round ih (by omega) room

theorem session_fails {t : Text} (ih : ∀ {fuel : Nat} {argv : List Text}, rest.length ≤ fuel →
      ∃ code, Shell.parseTokens fuel rest argv = .error code) (enough : rest.length ≤ fuel) :
    ∃ code, (if maxArgs ≤ argv.length then .error .bufferFull else Shell.parseTokens fuel rest (argv ++ [t])) =
      .error code := by
  by_cases full : maxArgs ≤ argv.length
  · exact ⟨_, if_pos full⟩
  · obtain ⟨code, failed⟩ := @ih fuel (argv ++ [t]) enough
    exact ⟨code, (if_neg full).trans failed⟩

theorem session_unterminated (opened : Unterminated text) (enough : text.length ≤ fuel) :
    ∃ code, Shell.parseTokens fuel text argv = .error code := by
  induction opened generalizing fuel argv with
  | @opened q body quote fresh =>
    have consumed := (session_consume_quote quote body).trans (session_open fresh)
    obtain ⟨n, rfl⟩ : ∃ n, fuel = n + 1 := ⟨fuel - 1, by rw [length_cons] at enough; omega⟩
    rw [session_plain n argv _ (isQuote_plain quote), consumed]
    by_cases full : maxArgs ≤ argv.length
    · exact ⟨_, if_pos full⟩
    · exact ⟨_, if_neg full⟩
  | @blank c text blank opened ih =>
    rw [length_cons] at enough
    obtain ⟨n, rfl⟩ : ∃ n, fuel = n + 1 := ⟨fuel - 1, by omega⟩
    rw [session_blank n argv text blank]
    exact ih (by omega)
  | @word word rest c isWord blank opened ih =>
    have consumed := session_word isWord blank rest
    obtain ⟨d, more, rfl⟩ := exists_cons_of_ne_nil isWord.nonempty
    rw [length_append, length_cons, length_cons] at enough
    obtain ⟨n, rfl⟩ : ∃ n, fuel = n + 1 := ⟨fuel - 1, by omega⟩
    rw [cons_append] at consumed ⊢
    rw [session_plain n argv _ (isWord.plain d mem_cons_self), consumed]
    exact session_fails ih (by omega)
  | @quoted q body rest quote fresh opened ih =>
    have consumed := (session_consume_quote quote _).trans (session_quoted fresh rest)
    rw [length_cons, length_append, length_cons] at enough
    obtain ⟨n, rfl⟩ : ∃ n, fuel = n + 1 := ⟨fuel - 1, by omega⟩
    rw [session_plain n argv _ (isQuote_plain quote), consumed]
    exact session_fails ih (by omega)

theorem session_parseLine (tokens : Tokens text ts) :
    Shell.parseLine text =
      if maxArgs < ts.length then .error .bufferFull else if ts = [] then .error .noCommand else .ok ts := by
  rw [Shell.parseLine, session_tokens tokens (Nat.le_refl _) (Nat.zero_le _), length_nil, Nat.zero_add, nil_append]
  by_cases fits : ts.length ≤ maxArgs
  · rw [if_pos fits, if_neg (Nat.not_lt.mpr fits)]
    cases ts with
    | nil => rfl
    | cons t ts => rfl
  · rw [if_neg fits, if_pos (Nat.lt_of_not_le fits)]

end Session

section Runs

variable {front text beyond word body rest t : Text} {c : UInt8} {s : Tokenizer} {cap rounds : Nat} {ts : List Text}

theorem Within.shift {line done : Text} (within : Within (front ++ done) rest beyond line) (first : Text)
    (same : done.length = first.length) : Within front (first ++ rest) beyond line := by
  obtain ⟨written, size, rfl⟩ := within
  exact ⟨done ++ written, by rw [length_append, length_append, same, size], by simp only [append_assoc]⟩

variable {out : Return × Tokenizer} {line : Text}

theorem PointsTo.weaken {size size' q : Nat} (points : PointsTo line size q t) (le : size ≤ size') :
    PointsTo line size' q t :=
  ⟨Nat.le_trans points.1 le, points.2⟩

variable {s' : Tokenizer}

theorem Result.push (open_ first : Text) (result : Result cap s' (front ++ (open_ ++ t ++ [0])) rest beyond ts out)
    (same : first.length = (open_ ++ t ++ [0]).length) (argv : s'.argv = s.argv ++ [front.length + open_.length]) :
    Result cap s front (first ++ rest) beyond (t :: ts) out := by
  have count : s'.argv.length + ts.length = s.argv.length + (t :: ts).length := by
    rw [argv, length_append, length_singleton, length_cons]
    omega
  have size : (front ++ (open_ ++ t ++ [0])).length + rest.length = front.length + (first ++ rest).length := by
    rw [length_append, ← same, Nat.add_assoc, ← length_append]
  constructor
  · rw [result.ret, count]
  · exact result.within.shift first same.symm
  · intro fits
    obtain ⟨ps, stored, points⟩ := result.argv (by rw [count]; exact fits)
    refine ⟨(front.length + open_.length) :: ps, ?_, .cons ⟨?_, ?_⟩ (size ▸ points)⟩
    · rw [stored, argv, append_assoc]
      rfl
    · rw [← size]
      simp only [length_append, length_singleton]
      omega
    · obtain ⟨written, -, line⟩ := result.within
      rw [line, append_assoc, ← List.drop_drop, drop_left, append_assoc, append_assoc,
        drop_left,
        ← append_assoc]
      exact List.prefix_append _ _

theorem Result.full (here : s.At front (text ++ 0 :: beyond)) (full : cap ≤ s.argv.length)
    (line : s'.line = s.line) : Result cap s front text beyond (t :: ts) (.bufferFull, s') := by
  have none_fit : ¬s.argv.length + (t :: ts).length ≤ cap := by
    rw [length_cons]
    omega
  exact ⟨by rw [if_neg none_fit], ⟨text, rfl, line.trans here.line⟩, fun fits => absurd fits none_fit⟩

theorem Result.shift
    (result : Result cap s' (front ++ [c]) text beyond ts out) (argv : s'.argv = s.argv) :
    Result cap s front (c :: text) beyond ts out := by
  have size : (front ++ [c]).length + text.length = front.length + (c :: text).length := by
    rw [length_append, length_singleton, length_cons]
    omega
  constructor
  · rw [result.ret, argv]
  · exact result.within.shift [c] rfl
  · intro fits
    obtain ⟨ps, stored, points⟩ := result.argv (by rw [argv]; exact fits)
    exact ⟨ps, by rw [stored, argv], size ▸ points⟩

theorem parseTokens_full (rounds : Nat) (here : s.At front (c :: text)) (plain : isBlank c = false) (more : c ≠ 0)
    (full : cap ≤ s.argv.length) : ∃ s', parseTokens cap (rounds + 1) s = some (.bufferFull, s') ∧
    s'.line = s.line := by
  obtain ⟨s', run, same⟩ := consumeToken_full here full
  refine ⟨s', ?_, same⟩
  rw [parseTokens_plain here plain more, run]
  rfl

theorem parseTokens_token (here : s.At front (c :: text)) (plain : isBlank c = false) (more : c ≠ 0)
    (run : consumeToken cap s = some (.ok, s')) : parseTokens cap (rounds + 1) s = parseTokens cap rounds s' := by
  rw [parseTokens_plain here plain more, run]
  rfl

theorem parseTokens_end (here : s.At front (0 :: beyond)) : parseTokens cap (rounds + 1) s = some (.ok, s) := by
  rw [parseTokens, here.char, Option.bind_eq_bind, Option.bind_some, if_pos rfl]
  rfl

theorem parseTokens_blank' (here : s.At front (c :: (text ++ 0 :: beyond))) (blank : isBlank c = true) :
    parseTokens cap (rounds + 1) s = parseTokens cap (rounds + 1) { s with p := s.p + 1 } := by
  cases text with
  | nil => exact parseTokens_blank here blank
  | cons d text => exact parseTokens_blank here blank

theorem parseTokens_word (rounds : Nat) (here : s.At front (word ++ c :: text)) (isWord : IsWord word) (nul : 0 ∉ word)
    (blank : isBlank c = true) (room : s.argv.length < cap) :
    ∃ s', s'.At (front ++ ([] ++ word ++ [0])) text ∧ s'.argv = s.argv ++ [front.length + ([] : Text).length] ∧
      parseTokens cap (rounds + 1) s = parseTokens cap rounds s' := by
  obtain ⟨d, more, rfl⟩ := exists_cons_of_ne_nil isWord.nonempty
  have unbroken : c ≠ 0 := by
    rintro rfl
    exact absurd blank (by decide)
  have taken := consumeToken_word here isWord nul (.inr blank) room
  rw [if_neg unbroken] at taken
  have reached : Tokenizer.At ⟨s.line, s.p + (d :: more).length, s.argv ++ [s.p]⟩ (front ++ (d :: more)) (c :: text) :=
    ⟨here.move.line, here.move.p⟩
  have behind := reached.terminate
  rw [append_assoc] at behind
  refine ⟨_, behind, ?_, parseTokens_token here (isWord.plain d mem_cons_self) ?_ taken⟩
  rotate_left
  · exact fun zero => nul (zero ▸ mem_cons_self)
  change s.argv ++ [s.p] = _
  rw [here.p]
  rfl

theorem parseTokens_quoted (rounds : Nat) {q : UInt8} (here : s.At front (q :: (body ++ q :: text)))
    (quote : isQuote q = true) (fresh : q ∉ body) (nul : 0 ∉ q :: body) (room : s.argv.length < cap) :
    ∃ s', s'.At (front ++ ([q] ++ body ++ [0])) text ∧ s'.argv = s.argv ++ [front.length + [q].length] ∧
      parseTokens cap (rounds + 1) s = parseTokens cap rounds s' := by
  obtain ⟨unbroken, nul⟩ := not_or.mp (mt mem_cons.mpr nul)
  have taken := consumeToken_quoted here quote fresh nul (.inr rfl) room
  rw [if_neg (Ne.symm unbroken)] at taken
  have reached : Tokenizer.At ⟨s.line, s.p + 1 + body.length, s.argv ++ [s.p + 1]⟩ (front ++ [q] ++ body) (q :: text) :=
    ⟨here.next.move.line, here.next.move.p⟩
  have behind := reached.terminate
  rw [append_assoc front, append_assoc front] at behind
  refine ⟨_, behind, ?_, parseTokens_token here (isQuote_plain quote) (Ne.symm unbroken) taken⟩
  change s.argv ++ [s.p + 1] = _
  rw [here.p]
  rfl

theorem parseTokens_tokens (tokens : Tokens text ts) (nul : 0 ∉ text) (here : s.At front (text ++ 0 :: beyond))
    (enough : text.length < rounds) (room : s.argv.length ≤ cap) :
    ∃ out, parseTokens cap rounds s = some out ∧ Result cap s front text beyond ts out := by
  obtain ⟨n, rfl⟩ : ∃ n, rounds = n + 1 := ⟨rounds - 1, by omega⟩
  induction tokens generalizing s front n with
  | done =>
    refine ⟨_, parseTokens_end here, ?_, ⟨[], rfl, here.line⟩, fun _ => ⟨[], by rw [append_nil], .nil⟩⟩
    rw [length_nil, Nat.add_zero, if_pos room]
  | @blank c text ts blank tokens ih =>
    have shorter : text.length < n + 1 := by
      rw [length_cons] at enough
      omega
    obtain ⟨out, run, result⟩ := ih (fun mem => nul (mem_cons_of_mem _ mem)) here.next room n shorter
    exact ⟨out, (parseTokens_blank' here blank).trans run, result.shift rfl⟩
  | @last word isWord =>
    obtain ⟨d, more, rfl⟩ := exists_cons_of_ne_nil isWord.nonempty
    have plain := isWord.plain d mem_cons_self
    have some : d ≠ 0 := fun zero => nul (zero ▸ mem_cons_self)
    by_cases full : cap ≤ s.argv.length
    · obtain ⟨s', run, line⟩ := parseTokens_full n here plain some full
      exact ⟨_, run, .full here full line⟩
    · obtain ⟨n, rfl⟩ : ∃ m, n = m + 1 := ⟨n - 1, by rw [length_cons] at enough; omega⟩
      have taken := consumeToken_word here isWord nul (.inl rfl) (Nat.lt_of_not_le full)
      rw [if_pos rfl] at taken
      have ended : Tokenizer.At ⟨s.line, s.p + (d :: more).length, s.argv ++ [s.p]⟩
          (front ++ (d :: more)) (0 :: beyond) :=
        ⟨here.move.line, here.move.p⟩
      have fits : s.argv.length + [d :: more].length ≤ cap := by
        rw [length_singleton]
        omega
      refine ⟨_, (parseTokens_token here plain some taken).trans (parseTokens_end ended), ?_,
        ⟨d :: more, rfl, here.line⟩, ?_⟩
      · rw [if_pos fits]
      · refine fun _ => ⟨[s.p], rfl, .cons ⟨?_, ?_⟩ .nil⟩
        · rw [here.p]
        · change d :: more ++ [0] <+: s.line.drop s.p
          rw [here.line, here.p, drop_left]
          exact ⟨beyond, by simp⟩
  | @word word rest c ts isWord blank tokens ih =>
    obtain ⟨clean, nul'⟩ := not_or.mp (mt mem_append.mpr nul)
    by_cases full : cap ≤ s.argv.length
    · obtain ⟨d, more, rfl⟩ := exists_cons_of_ne_nil isWord.nonempty
      obtain ⟨s', run, line⟩ :=
        parseTokens_full n here (isWord.plain d mem_cons_self) (fun zero => clean (zero ▸ mem_cons_self)) full
      exact ⟨_, run, .full here full line⟩
    · rw [append_assoc] at here
      rw [length_append, length_cons] at enough
      have some := List.length_pos_iff.mpr isWord.nonempty
      obtain ⟨m, rfl⟩ : ∃ m, n = m + 1 := ⟨n - 1, by omega⟩
      obtain ⟨s', there, argv, round⟩ := parseTokens_word (m + 1) here isWord clean blank (Nat.lt_of_not_le full)
      have room' : s'.argv.length ≤ cap := by
        rw [argv, length_append, length_singleton]
        omega
      obtain ⟨out, run, result⟩ := ih (fun mem => nul' (mem_cons_of_mem _ mem)) there room' m (by omega)
      have result := result.push [] (word ++ [c]) (by simp) argv
      rw [append_assoc] at result
      exact ⟨out, round.trans run, result⟩
  | @quoted q body rest ts quote fresh tokens ih =>
    by_cases full : cap ≤ s.argv.length
    · obtain ⟨s', run, line⟩ :=
        parseTokens_full n here (isQuote_plain quote) (fun zero => nul (zero ▸ mem_cons_self)) full
      exact ⟨_, run, .full here full line⟩
    · rw [cons_append, append_assoc] at here
      have nul : 0 ∉ (q :: body) ++ q :: rest := nul
      obtain ⟨clean, nul'⟩ := not_or.mp (mt mem_append.mpr nul)
      rw [length_cons, length_append, length_cons] at enough
      obtain ⟨m, rfl⟩ : ∃ m, n = m + 1 := ⟨n - 1, by omega⟩
      obtain ⟨s', there, argv, round⟩ := parseTokens_quoted (m + 1) here quote fresh clean (Nat.lt_of_not_le full)
      have room' : s'.argv.length ≤ cap := by
        rw [argv, length_append, length_singleton]
        omega
      obtain ⟨out, run, result⟩ := ih (fun mem => nul' (mem_cons_of_mem _ mem)) there room' m (by omega)
      have result := result.push [q] (q :: (body ++ [q])) (by simp) argv
      rw [cons_append, append_assoc] at result
      exact ⟨out, round.trans run, result⟩

theorem parseTokens_unterminated (opened : Unterminated text) (nul : 0 ∉ text) (here : s.At front (text ++ 0 :: beyond))
    (enough : text.length < rounds) :
    ∃ out, parseTokens cap rounds s = some out ∧ out.1.IsError ∧ Within front text beyond out.2.line := by
  obtain ⟨n, rfl⟩ : ∃ n, rounds = n + 1 := ⟨rounds - 1, by omega⟩
  induction opened generalizing s front n with
  | @opened q body quote fresh =>
    have unbroken : q ≠ 0 := fun zero => nul (zero ▸ mem_cons_self)
    by_cases full : cap ≤ s.argv.length
    · obtain ⟨s', run, line⟩ := parseTokens_full n here (isQuote_plain quote) unbroken full
      exact ⟨_, run, .inr rfl, q :: body, rfl, line.trans here.line⟩
    · have taken := consumeToken_quoted here quote fresh (fun mem => nul (mem_cons_of_mem _ mem)) (.inl rfl)
        (Nat.lt_of_not_le full)
      rw [if_pos rfl] at taken
      have ended : parseTokens cap (n + 1) s =
          some (.invalidArg, ⟨s.line, s.p + 1 + body.length, s.argv ++ [s.p + 1]⟩) := by
        rw [parseTokens_plain here (isQuote_plain quote) unbroken, taken]
        rfl
      exact ⟨_, ended, .inl rfl, q :: body, rfl, here.line⟩
  | @blank c text blank opened ih =>
    have shorter : text.length < n + 1 := by
      rw [length_cons] at enough
      omega
    obtain ⟨out, run, failed, within⟩ := ih (fun mem => nul (mem_cons_of_mem _ mem)) here.next n shorter
    exact ⟨out, (parseTokens_blank' here blank).trans run, failed, within.shift [c] rfl⟩
  | @word word rest c isWord blank opened ih =>
    obtain ⟨clean, nul'⟩ := not_or.mp (mt mem_append.mpr nul)
    by_cases full : cap ≤ s.argv.length
    · obtain ⟨d, more, rfl⟩ := exists_cons_of_ne_nil isWord.nonempty
      obtain ⟨s', run, line⟩ :=
        parseTokens_full n here (isWord.plain d mem_cons_self) (fun zero => clean (zero ▸ mem_cons_self)) full
      exact ⟨_, run, .inr rfl, _, rfl, line.trans here.line⟩
    · rw [append_assoc] at here
      rw [length_append, length_cons] at enough
      have some := List.length_pos_iff.mpr isWord.nonempty
      obtain ⟨m, rfl⟩ : ∃ m, n = m + 1 := ⟨n - 1, by omega⟩
      obtain ⟨s', there, argv, round⟩ := parseTokens_word (m + 1) here isWord clean blank (Nat.lt_of_not_le full)
      obtain ⟨out, run, failed, within⟩ := ih (fun mem => nul' (mem_cons_of_mem _ mem)) there m (by omega)
      have within := within.shift (word ++ [c]) (by simp)
      rw [append_assoc] at within
      exact ⟨out, round.trans run, failed, within⟩
  | @quoted q body rest quote fresh opened ih =>
    by_cases full : cap ≤ s.argv.length
    · obtain ⟨s', run, line⟩ :=
        parseTokens_full n here (isQuote_plain quote) (fun zero => nul (zero ▸ mem_cons_self)) full
      exact ⟨_, run, .inr rfl, _, rfl, line.trans here.line⟩
    · rw [cons_append, append_assoc] at here
      have nul : 0 ∉ (q :: body) ++ q :: rest := nul
      obtain ⟨clean, nul'⟩ := not_or.mp (mt mem_append.mpr nul)
      rw [length_cons, length_append, length_cons] at enough
      obtain ⟨m, rfl⟩ : ∃ m, n = m + 1 := ⟨n - 1, by omega⟩
      obtain ⟨s', there, argv, round⟩ := parseTokens_quoted (m + 1) here quote fresh clean (Nat.lt_of_not_le full)
      obtain ⟨out, run, failed, within⟩ := ih (fun mem => nul' (mem_cons_of_mem _ mem)) there m (by omega)
      have within := within.shift (q :: (body ++ [q])) (by simp)
      rw [cons_append, append_assoc] at within
      exact ⟨out, round.trans run, failed, within⟩


/-- What a parsed line comes to: the tokens of its text, or the reason why there are none. -/
structure ParsesTo (text beyond : Text) (cap : Nat) (out : Parsed) : Prop where
  within : Within [] text beyond out.line
  fails : out.ret.IsError ↔ cap = 0 ∨ Unterminated text ∨ ∃ ts, Tokens text ts ∧ cap < ts.length
  tokens : ∀ ts, Tokens text ts → 0 < cap → ts.length ≤ cap →
    out.ret = (if ts = [] then .noCommand else .ok) ∧ out.argc = ts.length ∧
      List.Forall₂ (PointsTo out.line text.length) out.argv ts
  strings : ∀ ts, Tokens text ts → ∀ t ∈ ts, 0 ∉ t

theorem Tokens.strings (tokens : Tokens text ts) (nul : 0 ∉ text) : ∀ t ∈ ts, 0 ∉ t := by
  induction tokens with
  | done => exact fun t mem => (nomatch mem)
  | blank _ _ ih => exact ih fun mem => nul (mem_cons_of_mem _ mem)
  | last _ =>
    intro t mem
    exact List.mem_singleton.mp mem ▸ nul
  | word _ _ _ ih =>
    obtain ⟨clean, nul⟩ := not_or.mp (mt mem_append.mpr nul)
    intro t mem
    rcases mem_cons.mp mem with rfl | mem
    · exact clean
    · exact ih (fun inside => nul (mem_cons_of_mem _ inside)) t mem
  | @quoted q body rest ts _ _ _ ih =>
    have nul : 0 ∉ (q :: body) ++ q :: rest := nul
    obtain ⟨clean, nul⟩ := not_or.mp (mt mem_append.mpr nul)
    intro t mem
    rcases mem_cons.mp mem with rfl | mem
    · exact fun inside => clean (mem_cons_of_mem _ inside)
    · exact ih (fun inside => nul (mem_cons_of_mem _ inside)) t mem

theorem not_isError_ite (none : Prop) [Decidable none] : ¬Return.IsError (if none then .noCommand else .ok) := by
  split <;> decide

theorem parseLine_run {ret : Return} (room : cap ≠ 0)
    (run : parseTokens cap line.length ⟨line, 0, []⟩ = some (ret, s)) :
    parseLine line cap = some (if ret ≠ .ok then ⟨ret, 0, s.argv, s.line⟩
      else if s.argv.length = 0 then ⟨.noCommand, 0, s.argv, s.line⟩
      else ⟨.ok, s.argv.length, s.argv, s.line⟩) := by
  rw [parseLine, if_neg room, run, Option.bind_eq_bind, Option.bind_some]
  by_cases failed : ret ≠ .ok
  · rw [if_pos failed]
    exact if_pos failed
  · rw [if_neg failed]
    refine (if_neg failed).trans ?_
    by_cases none : s.argv.length = 0
    · rw [if_pos none, if_pos none]
      rfl
    · rw [if_neg none, if_neg none]
      rfl

theorem parseLine_tokens (tokens : Tokens text ts) (nul : 0 ∉ text) (some_room : 0 < cap) :
    ∃ out, parseLine (text ++ 0 :: beyond) cap = some out ∧ Within [] text beyond out.line ∧
      (ts.length ≤ cap → out.ret = (if ts = [] then .noCommand else .ok) ∧ out.argc = ts.length ∧
        List.Forall₂ (PointsTo out.line text.length) out.argv ts) ∧
      (cap < ts.length → out.ret = .bufferFull) := by
  have enough : text.length < (text ++ 0 :: beyond).length := by
    rw [length_append, length_cons]
    omega
  have start : Tokenizer.At ⟨text ++ 0 :: beyond, 0, []⟩ [] (text ++ 0 :: beyond) := ⟨rfl, rfl⟩
  obtain ⟨⟨ret, s⟩, run, result⟩ := parseTokens_tokens tokens nul start enough (Nat.zero_le cap)
  have code := result.ret
  rw [length_nil, Nat.zero_add] at code
  rw [parseLine_run (Nat.pos_iff_ne_zero.mp some_room) run]
  by_cases fits : ts.length ≤ cap
  · rw [if_pos fits] at code
    subst code
    obtain ⟨ps, stored, points⟩ := result.argv (by rw [length_nil, Nat.zero_add]; exact fits)
    rw [length_nil, Nat.zero_add] at points
    rw [nil_append] at stored
    rw [← stored] at points
    have count : s.argv.length = ts.length := points.length_eq
    by_cases none : ts = []
    · subst none
      refine ⟨⟨.noCommand, 0, s.argv, s.line⟩, ?_, result.within, fun _ => ⟨rfl, rfl, points⟩,
        fun more => absurd more (Nat.not_lt_zero _)⟩
      rw [if_neg (not_not.mpr rfl), if_pos (by exact count)]
    · have filled : s.argv.length ≠ 0 := by
        rw [count]
        exact mt List.eq_nil_of_length_eq_zero none
      refine ⟨⟨.ok, s.argv.length, s.argv, s.line⟩, ?_, result.within, fun _ => ⟨(if_neg none).symm, count, points⟩,
        fun more => absurd fits (Nat.not_le.mpr more)⟩
      rw [if_neg (not_not.mpr rfl), if_neg filled]
  · rw [if_neg fits] at code
    subst code
    exact ⟨⟨.bufferFull, 0, s.argv, s.line⟩, rfl, result.within, fun le => absurd le fits, fun _ => rfl⟩

theorem parseLine_unterminated (opened : Unterminated text) (nul : 0 ∉ text) (some_room : 0 < cap) :
    ∃ out, parseLine (text ++ 0 :: beyond) cap = some out ∧ Within [] text beyond out.line ∧ out.ret.IsError := by
  have enough : text.length < (text ++ 0 :: beyond).length := by
    rw [length_append, length_cons]
    omega
  have start : Tokenizer.At ⟨text ++ 0 :: beyond, 0, []⟩ [] (text ++ 0 :: beyond) := ⟨rfl, rfl⟩
  obtain ⟨⟨ret, s⟩, run, failed, within⟩ := @parseTokens_unterminated _ _ _ _ cap _ opened nul start enough
  have failing : ret ≠ .ok := by
    rintro rfl
    exact absurd failed (show ¬Return.IsError .ok by decide)
  refine ⟨⟨ret, 0, s.argv, s.line⟩, ?_, within, failed⟩
  rw [parseLine_run (Nat.pos_iff_ne_zero.mp some_room) run, if_pos failing]

/-- The session's tokenizer hands on what argv points to, and fails where the code does. -/
theorem session_parseLine_agrees (nul : 0 ∉ text) :
    ∃ out, parseLine (text ++ 0 :: beyond) maxArgs = some out ∧
      (∀ ts, Shell.parseLine text = .ok ts → out.ret = .ok ∧ List.Forall₂ (PointsTo out.line text.length) out.argv ts) ∧
      ∀ code, Shell.parseLine text = .error code → out.ret ≠ .ok := by
  have some_room : 0 < maxArgs := by decide
  rcases tokens_or_unterminated text with ⟨ts, tokens⟩ | opened
  · obtain ⟨out, run, -, fit, more⟩ := @parseLine_tokens _ beyond _ _ tokens nul some_room
    rw [session_parseLine tokens]
    refine ⟨out, run, ?_⟩
    by_cases many : maxArgs < ts.length
    · rw [if_pos many, more many]
      exact ⟨fun _ h => (nomatch h), fun _ _ => by decide⟩
    · obtain ⟨ret, -, points⟩ := fit (Nat.not_lt.mp many)
      rw [if_neg many, ret]
      by_cases none : ts = []
      · rw [if_pos none, if_pos none]
        exact ⟨fun _ h => (nomatch h), fun _ _ => by decide⟩
      · rw [if_neg none, if_neg none]
        refine ⟨?_, fun _ h => (nomatch h)⟩
        rintro _ ⟨⟩
        exact ⟨rfl, points⟩
  · obtain ⟨out, run, -, failed⟩ := @parseLine_unterminated _ beyond _ opened nul some_room
    obtain ⟨code, fails⟩ := @session_unterminated text [] text.length opened (Nat.le_refl _)
    have error : Shell.parseLine text = .error code := by
      rw [Shell.parseLine, fails]
    rw [error]
    refine ⟨out, run, fun _ h => (nomatch h), fun _ _ ok => ?_⟩
    rw [ok] at failed
    exact absurd failed (by decide)

theorem session_parseLine_agrees_sample :
    ∃ out, parseLine ([0x61, 0x20, 0x62] ++ 0 :: [0x63]) maxArgs = some out ∧ out.ret = .ok := by
  obtain ⟨out, run, told, -⟩ := @session_parseLine_agrees [0x61, 0x20, 0x62] [0x63] (by decide)
  exact ⟨out, run, (told [[0x61], [0x62]] rfl).1⟩

end Runs

section Round

/-- An argument in quotes that it does not contain, behind any number of blanks. -/
structure Quoted where
  blanks : Text
  quote : UInt8
  text : Text
  blank : ∀ c ∈ blanks, isBlank c = true
  isQuote : isQuote quote = true
  fresh : quote ∉ text
  nul : 0 ∉ text

def Quoted.wire (a : Quoted) : Text := a.blanks ++ a.quote :: (a.text ++ [a.quote])

theorem Tokens.behind {blanks text : Text} {ts : List Text} (blank : ∀ c ∈ blanks, isBlank c = true)
    (tokens : Tokens text ts) :
    Tokens (blanks ++ text) ts := by
  induction blanks with
  | nil => exact tokens
  | cons c blanks ih => exact .blank (blank c mem_cons_self) (ih fun d mem => blank d (mem_cons_of_mem _ mem))

variable {last : Text}

theorem tokens_wire (args : List Quoted) (blank : ∀ c ∈ last, isBlank c = true) :
    Tokens (args.flatMap Quoted.wire ++ last) (args.map Quoted.text) := by
  induction args with
  | nil =>
    have tokens := Tokens.behind blank .done
    rwa [append_nil] at tokens
  | cons a args ih =>
    have tokens := Tokens.behind a.blank (Tokens.quoted a.isQuote a.fresh ih)
    rw [List.flatMap_cons, List.map_cons, Quoted.wire]
    simpa only [append_assoc, cons_append, nil_append] using tokens

theorem isBlank_some {c : UInt8} (blank : isBlank c = true) : c ≠ 0 := by
  rintro rfl
  exact absurd blank (by decide)

theorem isQuote_some {c : UInt8} (quote : isQuote c = true) : c ≠ 0 := by
  rintro rfl
  exact absurd quote (by decide)

theorem Quoted.nul_wire (a : Quoted) : 0 ∉ a.wire := by
  intro mem
  rw [Quoted.wire, mem_append, mem_cons, mem_append, List.mem_singleton] at mem
  rcases mem with mem | mem | mem | mem
  · exact isBlank_some (a.blank 0 mem) rfl
  · exact isQuote_some a.isQuote mem.symm
  · exact a.nul mem
  · exact isQuote_some a.isQuote mem.symm

theorem nul_wire (args : List Quoted) (blank : ∀ c ∈ last, isBlank c = true) :
    0 ∉ args.flatMap Quoted.wire ++ last := by
  intro mem
  rcases mem_append.mp mem with mem | mem
  · obtain ⟨a, -, inside⟩ := List.mem_flatMap.mp mem
    exact a.nul_wire inside
  · exact isBlank_some (blank 0 mem) rfl

end Round

/-- Every line is parsed in its own bytes into the tokens of the grammar, and fails exactly for an
open quote, for more tokens than fit, and for an argv without room; quoted arguments come back. -/
theorem parse_line_grammar :
    (∀ (text beyond : Text) (cap : Nat), 0 ∉ text →
      ∃ out, parseLine (text ++ 0 :: beyond) cap = some out ∧ ParsesTo text beyond cap out) ∧
    ∀ (args : List Quoted) (last beyond : Text) (cap : Nat), (∀ c ∈ last, isBlank c = true) →
      0 < cap → args.length ≤ cap →
      ∃ out, parseLine (args.flatMap Quoted.wire ++ last ++ 0 :: beyond) cap = some out ∧
        out.ret = (if args = [] then .noCommand else .ok) ∧ out.argc = args.length ∧
        List.Forall₂ (PointsTo out.line (args.flatMap Quoted.wire ++ last).length) out.argv (args.map Quoted.text) := by
  constructor
  · intro text beyond cap nul
    rcases Nat.eq_zero_or_pos cap with rfl | some_room
    · exact ⟨_, rfl, ⟨text, rfl, rfl⟩, ⟨fun _ => .inl rfl, fun _ => .inl rfl⟩,
        fun _ _ none => absurd none (Nat.lt_irrefl 0), fun _ tokens => tokens.strings nul⟩
    rcases tokens_or_unterminated text with ⟨ts, tokens⟩ | opened
    · obtain ⟨out, run, within, fit, more⟩ := parseLine_tokens tokens nul some_room
      have agree : ∀ ts', Tokens text ts' → (ts'.length ≤ cap → out.ret = (if ts' = [] then .noCommand else .ok) ∧
          out.argc = ts'.length ∧ List.Forall₂ (PointsTo out.line text.length) out.argv ts') ∧
          (cap < ts'.length → out.ret = .bufferFull) := by
        intro ts' tokens'
        obtain ⟨out', run', -, both⟩ := parseLine_tokens tokens' nul some_room
        rw [run, Option.some.injEq] at run'
        exact run' ▸ both
      refine ⟨out, run, within, ⟨?_, ?_⟩, fun ts' tokens' _ => (agree ts' tokens').1,
        fun _ tokens => tokens.strings nul⟩
      · intro failed
        by_cases fits : ts.length ≤ cap
        · rw [(fit fits).1] at failed
          exact absurd failed (not_isError_ite _)
        · exact .inr (.inr ⟨ts, tokens, Nat.lt_of_not_le fits⟩)
      · rintro (none | opened | ⟨ts', tokens', many⟩)
        · exact absurd none (Nat.pos_iff_ne_zero.mp some_room)
        · obtain ⟨out', run', -, failed⟩ := parseLine_unterminated opened nul some_room
          rw [run, Option.some.injEq] at run'
          exact run' ▸ failed
        · exact .inr ((agree ts' tokens').2 many)
    · obtain ⟨out, run, within, failed⟩ := parseLine_unterminated opened nul some_room
      refine ⟨out, run, within, ⟨fun _ => .inr (.inl opened), fun _ => failed⟩, ?_, fun _ tokens => tokens.strings nul⟩
      intro ts tokens _ fits
      obtain ⟨out', run', -, fit, -⟩ := parseLine_tokens tokens nul some_room
      rw [run, Option.some.injEq] at run'
      rw [run', (fit fits).1] at failed
      exact absurd failed (not_isError_ite _)
  · intro args last beyond cap blank some_room fits
    obtain ⟨out, run, -, tokens, -⟩ := parseLine_tokens (tokens_wire args blank) (nul_wire args blank) some_room
    rw [List.length_map] at tokens
    obtain ⟨ret, argc, points⟩ := tokens fits
    refine ⟨out, run, ?_, argc, points⟩
    rw [ret]
    simp only [List.map_eq_nil_iff]

def emptyQuoted : Quoted := ⟨[0x20], 0x27, [], by simp [isBlank, space], rfl, by simp, by simp⟩

/-- A word and an empty argument in quotes. -/
theorem parse_line_grammar_sample :
    (∃ out, parseLine ([0x61, 0x20, 0x27, 0x27] ++ 0 :: []) 2 = some out ∧ ParsesTo [0x61, 0x20, 0x27, 0x27] [] 2 out) ∧
    ∃ out, parseLine ([emptyQuoted].flatMap Quoted.wire ++ [] ++ 0 :: []) 1 = some out ∧ out.ret = .ok ∧ out.argc = 1 ∧
      List.Forall₂ (PointsTo out.line 3) out.argv [[]] :=
  ⟨parse_line_grammar.1 _ _ 2 (by simp), parse_line_grammar.2 [emptyQuoted] [] [] 1 (by simp) (by simp) (by simp)⟩

theorem Tokens.of_empty {text : Text} {ts : List Text} (tokens : Tokens text ts) (empty : text = []) : ts = [] := by
  cases tokens with
  | done => rfl
  | blank _ _ => exact absurd empty (cons_ne_nil _ _)
  | last isWord => exact absurd empty isWord.nonempty
  | word isWord _ _ => exact absurd (List.append_eq_nil_iff.mp empty).1 isWord.nonempty
  | quoted _ _ _ => exact absurd empty (cons_ne_nil _ _)

theorem Unterminated.nonempty {text : Text} (opened : Unterminated text) : text ≠ [] := by
  cases opened with
  | opened _ _ => exact cons_ne_nil _ _
  | blank _ _ => exact cons_ne_nil _ _
  | word isWord _ _ => exact fun empty => isWord.nonempty (List.append_eq_nil_iff.mp empty).1
  | quoted _ _ _ => exact cons_ne_nil _ _

/-- An argv without room is an error for the empty line, too. -/
theorem parse_line_without_room :
    ¬∀ (text beyond : Text) (cap : Nat), 0 ∉ text → ∃ out, parseLine (text ++ 0 :: beyond) cap = some out ∧
      (out.ret.IsError ↔ Unterminated text ∨ ∃ ts, Tokens text ts ∧ cap < ts.length) := by
  intro all
  obtain ⟨out, run, fails⟩ := all [] [] 0 (by decide)
  obtain rfl : (⟨.invalidArg, 0, [], [0]⟩ : Parsed) = out := Option.some.inj run
  rcases fails.mp (.inl rfl) with opened | ⟨ts, tokens, many⟩
  · exact opened.nonempty rfl
  · rw [tokens.of_empty rfl] at many
    exact absurd many (Nat.lt_irrefl 0)

end XSDK.Shell.Cli
