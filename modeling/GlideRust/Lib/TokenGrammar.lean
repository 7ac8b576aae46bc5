import Mathlib.Data.List.Basic
import Mathlib.Tactic.Common

/-!
# Reading token lists from left to right

Readers for flat command lines: a sequence of items, each of which says by its
first tokens where it ends, and option clauses that are introduced by keywords
and may come in any order.
-/

namespace GlideRust.Lib.TokenGrammar

variable {τ α σ : Type*}

/-- A reader takes some tokens off the front. -/
abbrev Reader (τ α : Type*) := List τ → Option (α × List τ)

/-- What is read is a function of the line. -/
theorem eq_of_read {read : List τ → Option α} {line other : List τ} {a b : α}
    (ha : read line = some a) (hb : read other = some b) (hsame : line = other) : a = b := by
  rw [hsame, hb] at ha
  exact (Option.some.inj ha).symm

/-! ## Sequences of items -/

/-- Read items until no token is left; `fuel` bounds their number. -/
def readMany (item : Reader τ α) : Nat → List τ → Option (List α)
  | _, [] => some []
  | 0, _ :: _ => none
  | fuel + 1, t :: ts =>
      match item (t :: ts) with
      | some (a, rest) => (readMany item fuel rest).map (a :: ·)
      | none => none

/-- Read items until no token is left. An item takes at least one token. -/
def readAll (item : Reader τ α) (tokens : List τ) : Option (List α) :=
  readMany item tokens.length tokens

/-- Items that are written with at least one token, and read back whatever
follows them, are read back from their concatenation. -/
theorem readMany_flatMap {item : Reader τ α} {encode : α → List τ}
    (hitem : ∀ a rest, item (encode a ++ rest) = some (a, rest))
    (hne : ∀ a, encode a ≠ []) (xs : List α) {fuel : Nat}
    (hfuel : (xs.flatMap encode).length ≤ fuel) :
    readMany item fuel (xs.flatMap encode) = some xs := by
  induction xs generalizing fuel with
  | nil => cases fuel <;> rfl
  | cons x xs ih =>
      have hread := hitem x (xs.flatMap encode)
      rw [List.flatMap_cons] at hfuel ⊢
      cases htokens : encode x with
      | nil => exact absurd htokens (hne x)
      | cons t ts =>
          rw [htokens, List.cons_append] at hfuel hread
          rw [List.cons_append]
          cases fuel with
          | zero => simp at hfuel
          | succ fuel =>
              have hrest : (xs.flatMap encode).length ≤ fuel := by
                simp only [List.length_cons, List.length_append] at hfuel
                omega
              simp only [readMany, hread, ih hrest, Option.map_some]

theorem readAll_flatMap {item : Reader τ α} {encode : α → List τ}
    (hitem : ∀ a rest, item (encode a ++ rest) = some (a, rest))
    (hne : ∀ a, encode a ≠ []) (xs : List α) :
    readAll item (xs.flatMap encode) = some xs :=
  readMany_flatMap hitem hne xs (Nat.le_refl _)

/-- Read items up to the token `stop`, which begins none of them, and pass it. -/
def readUntil [DecidableEq τ] (item : Reader τ α) (stop : τ) : Nat → Reader τ (List α)
  | _, [] => none
  | 0, t :: ts => if t = stop then some ([], ts) else none
  | fuel + 1, t :: ts =>
      if t = stop then some ([], ts)
      else
        match item (t :: ts) with
        | some (a, rest) => (readUntil item stop fuel rest).map fun read => (a :: read.1, read.2)
        | none => none

theorem readUntil_stop [DecidableEq τ] (item : Reader τ α) (stop : τ) (fuel : Nat)
    (rest : List τ) : readUntil item stop fuel (stop :: rest) = some ([], rest) := by
  cases fuel with
  | zero => exact if_pos rfl
  | succ fuel => exact if_pos rfl

/-- Items in front of the stop token are read back, with what follows it. -/
theorem readUntil_flatMap [DecidableEq τ] {item : Reader τ α} {encode : α → List τ} {stop : τ}
    (hitem : ∀ a rest, item (encode a ++ rest) = some (a, rest))
    (hhead : ∀ a, ∃ t ts, encode a = t :: ts ∧ t ≠ stop) (xs : List α) (rest : List τ)
    {fuel : Nat} (hfuel : (xs.flatMap encode ++ stop :: rest).length ≤ fuel) :
    readUntil item stop fuel (xs.flatMap encode ++ stop :: rest) = some (xs, rest) := by
  induction xs generalizing fuel with
  | nil => exact readUntil_stop item stop fuel rest
  | cons x xs ih =>
      have hread := hitem x (xs.flatMap encode ++ stop :: rest)
      obtain ⟨t, ts, htokens, hne⟩ := hhead x
      rw [List.flatMap_cons, List.append_assoc] at hfuel ⊢
      rw [htokens, List.cons_append] at hfuel hread ⊢
      cases fuel with
      | zero => simp at hfuel
      | succ fuel =>
          have hrest : (xs.flatMap encode ++ stop :: rest).length ≤ fuel := by
            simp only [List.length_cons, List.length_append] at hfuel ⊢
            omega
          simp only [readUntil, if_neg hne, hread, ih hrest, Option.map_some]

/-! ## Parts at a fixed place -/

section FixedPlace

variable [DecidableEq τ]

/-- A keyword that may stand here. -/
def readFlag (keyword : τ) : List τ → Bool × List τ
  | [] => (false, [])
  | t :: rest => if t = keyword then (true, rest) else (false, t :: rest)

/-- A keyword and its value that may stand here. -/
def readOptional (keyword : τ) (read : τ → Option α) : Reader τ (Option α)
  | [] => some (none, [])
  | t :: rest =>
      if t = keyword then
        match rest with
        | v :: rest => (read v).map fun a => (some a, rest)
        | [] => none
      else some (none, t :: rest)

theorem readFlag_append {keyword : τ} {next : τ} (hnext : next ≠ keyword) (given : Bool)
    (rest : List τ) :
    readFlag keyword ((if given then [keyword] else []) ++ next :: rest) =
      (given, next :: rest) := by
  cases given with
  | false => exact if_neg hnext
  | true => exact if_pos rfl

theorem readOptional_append {keyword : τ} {read : τ → Option α} {render : α → τ}
    (hread : ∀ a, read (render a) = some a) {next : τ} (hnext : next ≠ keyword)
    (option : Option α) (rest : List τ) :
    readOptional keyword read (option.elim [] (fun a => [keyword, render a]) ++ next :: rest) =
      some (option, next :: rest) := by
  cases option with
  | none => exact if_neg hnext
  | some a => simp [readOptional, hread]

end FixedPlace

/-- Two lists of one length, written one after the other, taken as pairs. -/
def readHalves (tokens : List τ) : Option (List (τ × τ)) :=
  if tokens.length % 2 = 0 then
    some ((tokens.take (tokens.length / 2)).zip (tokens.drop (tokens.length / 2)))
  else none

theorem readHalves_append (pairs : List (τ × τ)) :
    readHalves (pairs.map Prod.fst ++ pairs.map Prod.snd) = some pairs := by
  have hlength : (pairs.map Prod.fst ++ pairs.map Prod.snd).length = 2 * pairs.length := by
    rw [List.length_append, List.length_map, List.length_map]
    omega
  have hhalf : 2 * pairs.length / 2 = (pairs.map Prod.fst).length := by
    rw [List.length_map]
    omega
  rw [readHalves, hlength, if_pos (Nat.mul_mod_right 2 _), hhalf, List.take_left, List.drop_left,
    List.zip_map', List.map_id']

/-! ## Option clauses -/

/-- What a keyword does to the options read so far: it stands alone, or the
token after it is its value. -/
inductive Clause (τ σ : Type*) where
  | flag (set : σ → σ)
  | value (set : τ → σ → Option σ)

/-- Read clauses up to the first token that is no keyword. -/
def readClauses (table : τ → Option (Clause τ σ)) : σ → List τ → Option (σ × List τ)
  | s, [] => some (s, [])
  | s, [t] =>
      match table t with
      | none => some (s, [t])
      | some (.flag set) => some (set s, [])
      | some (.value _) => none
  | s, t :: v :: rest =>
      match table t with
      | none => some (s, t :: v :: rest)
      | some (.flag set) => readClauses table (set s) (v :: rest)
      | some (.value set) =>
          match set v s with
          | some s' => readClauses table s' rest
          | none => none

variable {table : τ → Option (Clause τ σ)} {s s' : σ} {t v : τ}

@[simp] theorem readClauses_nil : readClauses table s [] = some (s, []) := by
  rw [readClauses]

theorem readClauses_stop (h : table t = none) (rest : List τ) :
    readClauses table s (t :: rest) = some (s, t :: rest) := by
  cases rest with
  | nil => simp only [readClauses, h]
  | cons v rest => simp only [readClauses, h]

theorem readClauses_flag {set : σ → σ} (h : table t = some (.flag set)) (rest : List τ) :
    readClauses table s (t :: rest) = readClauses table (set s) rest := by
  cases rest with
  | nil => simp only [readClauses, h]
  | cons v rest => simp only [readClauses, h]

theorem readClauses_value {set : τ → σ → Option σ} (h : table t = some (.value set))
    (hset : set v s = some s') (rest : List τ) :
    readClauses table s (t :: v :: rest) = readClauses table s' rest := by
  simp only [readClauses, h, hset]

/-- An optional clause with a value, written or left out. -/
theorem readClauses_option {set : τ → σ → Option σ} (h : table t = some (.value set))
    {render : α → τ} {put : α → σ → σ} (hset : ∀ a s, set (render a) s = some (put a s))
    (option : Option α) (rest : List τ) :
    readClauses table s (option.elim [] (fun a => [t, render a]) ++ rest) =
      readClauses table (option.elim s fun a => put a s) rest := by
  cases option with
  | none => rfl
  | some a => exact readClauses_value h (hset a s) rest

/-- An optional flag, written or left out. -/
theorem readClauses_bool {set : σ → σ} (h : table t = some (.flag set)) (given : Bool)
    (rest : List τ) :
    readClauses table s ((if given then [t] else []) ++ rest) =
      readClauses table (if given then set s else s) rest := by
  cases given with
  | false => rfl
  | true => exact readClauses_flag h rest

/-! ## Clauses with several values -/

/-- A keyword, and what the values behind it say. -/
structure Keyword (τ α : Type*) where
  word : τ
  arity : Nat
  read : List τ → Option α

section Keywords

variable [DecidableEq τ]

/-- Read the keyword in front together with its values. -/
def readKeyword (keywords : List (Keyword τ α)) : Reader τ α
  | [] => none
  | t :: rest =>
      match keywords.find? fun k => k.word = t with
      | none => none
      | some k =>
          if rest.length < k.arity then none
          else (k.read (rest.take k.arity)).map fun a => (a, rest.drop k.arity)

/-- In a list with distinct keys every element is found by its key. -/
theorem find?_key {β : Type*} {key : β → τ} {xs : List β} {x : β}
    (hdistinct : (xs.map key).Nodup) (hmem : x ∈ xs) :
    xs.find? (fun y => key y = key x) = some x := by
  induction xs with
  | nil => exact absurd hmem List.not_mem_nil
  | cons first rest ih =>
      rw [List.map_cons, List.nodup_cons] at hdistinct
      rcases List.mem_cons.mp hmem with rfl | hrest
      · exact List.find?_cons_of_pos (by simp)
      · have hne : key first ≠ key x := by
          intro hsame
          exact hdistinct.1 (hsame ▸ List.mem_map_of_mem hrest)
        rw [List.find?_cons_of_neg (by simpa using hne)]
        exact ih hdistinct.2 hrest

theorem readKeyword_append {keywords : List (Keyword τ α)} {k : Keyword τ α} {values : List τ}
    {a : α} (hdistinct : (keywords.map Keyword.word).Nodup) (hmem : k ∈ keywords)
    (harity : k.arity = values.length) (hread : k.read values = some a) (rest : List τ) :
    readKeyword keywords (k.word :: (values ++ rest)) = some (a, rest) := by
  have henough : ¬(values ++ rest).length < values.length := by
    rw [List.length_append]
    omega
  simp only [readKeyword, find?_key hdistinct hmem, if_neg henough, harity, List.take_left,
    List.drop_left, hread, Option.map_some]

/-- Clauses, each written as its own keyword with values that determine it. -/
structure Vocabulary (τ α : Type*) where
  keywords : List (Keyword τ α)
  distinct : (keywords.map Keyword.word).Nodup
  word : α → τ
  values : α → List τ
  spelled : ∀ a, ∃ k ∈ keywords,
    k.word = word a ∧ k.arity = (values a).length ∧ k.read (values a) = some a

namespace Vocabulary

/-- The tokens of one clause. -/
def encode (v : Vocabulary τ α) (a : α) : List τ := v.word a :: v.values a

/-- Read clauses, in any order, until no token is left. -/
def read (v : Vocabulary τ α) (tokens : List τ) : Option (List α) :=
  readAll (readKeyword v.keywords) tokens

theorem readKeyword_encode (v : Vocabulary τ α) (a : α) (rest : List τ) :
    readKeyword v.keywords (v.encode a ++ rest) = some (a, rest) := by
  obtain ⟨k, hmem, hword, harity, hread⟩ := v.spelled a
  rw [encode, ← hword, List.cons_append]
  exact readKeyword_append v.distinct hmem harity hread rest

/-- Clauses are read back as they were written, whatever their values are. -/
theorem read_encode (v : Vocabulary τ α) (clauses : List α) :
    v.read (clauses.flatMap v.encode) = some clauses := by
  apply readAll_flatMap v.readKeyword_encode
  intro a
  exact List.cons_ne_nil _ _

/-- Read clauses, in any order, up to the token `stop`. -/
def readBefore (v : Vocabulary τ α) (stop : τ) (tokens : List τ) : Option (List α × List τ) :=
  readUntil (readKeyword v.keywords) stop tokens.length tokens

theorem readBefore_encode (v : Vocabulary τ α) {stop : τ}
    (hstop : stop ∉ v.keywords.map Keyword.word) (clauses : List α) (rest : List τ) :
    v.readBefore stop (clauses.flatMap v.encode ++ stop :: rest) = some (clauses, rest) := by
  apply readUntil_flatMap _ _ clauses rest (Nat.le_refl _)
  · exact v.readKeyword_encode
  · intro a
    obtain ⟨k, hmem, hword, -⟩ := v.spelled a
    refine ⟨v.word a, v.values a, rfl, ?_⟩
    intro heq
    exact hstop (heq ▸ hword ▸ List.mem_map_of_mem hmem)

end Vocabulary

/-! ## Command names -/

/-- A command name, and the reader of the tokens behind it. -/
structure Command (τ α : Type*) where
  name : τ
  read : List τ → Option α

/-- Read a whole line by the command that it names. -/
def readCommand (commands : List (Command τ α)) : List τ → Option α
  | [] => none
  | t :: rest => (commands.find? fun c => c.name = t).bind fun c => c.read rest

theorem readCommand_cons {commands : List (Command τ α)} {c : Command τ α}
    (hdistinct : (commands.map Command.name).Nodup) (hmem : c ∈ commands) (rest : List τ) :
    readCommand commands (c.name :: rest) = c.read rest := by
  rw [readCommand, find?_key hdistinct hmem, Option.bind_some]

end Keywords

end GlideRust.Lib.TokenGrammar
