import Mathlib.Data.List.TakeDrop
import Mathlib.Tactic.SplitIfs
import RingOperator.Json.Reader
import RingOperator.Json.Writer
import RingOperator.Proofs.Text.Numeral

/-!
# Texts that are read back

The compact text of a value is read as that value (`read_write`), whatever its texts and
names hold, unless it holds a number by its spelling or something broken. The reader is
followed along what the writer puts down, with anything behind it: a character of a text
(`Reader.text_spell`), a text (`Reader.text_write`), a whole number, and then values with
the items and fields in them (`Reader.value_write`). Behind a number there must be
something that ends it (`Reader.Stops`), and the bound on the nesting need only reach the
length of the text.
-/

namespace RingOperator.Json

open RingOperator.Text

mutual
/-- Whether no number is given by its spelling, and nothing is broken. -/
def isPlain : Json → Bool
  | decimal _ => false
  | broken => false
  | array items => allPlain items
  | object fields => fieldsPlain fields
  | _ => true

/-- Whether every item is plain. -/
def allPlain : List Json → Bool
  | [] => true
  | item :: items => isPlain item && allPlain items

/-- Whether the value of every field is plain. -/
def fieldsPlain : List (String × Json) → Bool
  | [] => true
  | (_, value) :: fields => isPlain value && fieldsPlain fields
end

namespace Reader

variable {rest : List Char} {a b c d : Char}

/-! ## Texts -/

/-- One character in front of those that were scanned behind it. -/
def scanned (c : Char) (found : List (Option Char) × List Char) :
    List (Option Char) × List Char :=
  (some c :: found.1, found.2)

/-- Four characters that are no number do not stand behind an escape. -/
theorem text_of_unit_eq_none (h : unit a b c d = none) :
    text ('\\' :: 'u' :: a :: b :: c :: d :: rest) = none := by
  by_cases pair : ∃ e f g h tail, rest = '\\' :: 'u' :: e :: f :: g :: h :: tail
  · obtain ⟨e, f, g, h', tail, rfl⟩ := pair
    rw [text, h]
    rfl
  · rw [text, h]
    · rfl
    · intro e f g h' tail same
      exact pair ⟨e, f, g, h', tail, same⟩

/-- An escape that is no half of a surrogate pair is one character, whatever follows. -/
theorem text_unit {n : Nat} (h : unit a b c d = some n) (high : isHigh n = false)
    (low : isLow n = false) :
    text ('\\' :: 'u' :: a :: b :: c :: d :: rest) =
      (text rest).map (scanned (Char.ofNat n)) := by
  by_cases pair : ∃ e f g h tail, rest = '\\' :: 'u' :: e :: f :: g :: h :: tail
  -- The reader looks at the next escape as well, but only to join the halves of a pair.
  · obtain ⟨e, f, g, h', tail, rfl⟩ := pair
    rw [text, h]
    cases second : unit e f g h' with
    | none =>
      rw [text_of_unit_eq_none second]
      rfl
    | some m =>
      simp only [Option.bind_eq_bind, Option.bind_some, high, low, Bool.false_and, Bool.or_self,
        Bool.false_eq_true, if_false]
      cases text ('\\' :: 'u' :: e :: f :: g :: h' :: tail) <;> rfl
  · rw [text, h]
    · simp only [Option.bind_eq_bind, Option.bind_some, high, low, Bool.or_self,
        Bool.false_eq_true, if_false]
      cases text rest <;> rfl
    · intro e f g h' tail same
      exact pair ⟨e, f, g, h', tail, same⟩

theorem text_letter {letter : Char} (h : escaped letter = some c) :
    text ('\\' :: letter :: rest) = (text rest).map (scanned c) := by
  have other : letter ≠ 'u' := by
    rintro rfl
    cases h
  rw [text]
  · rw [h]
    cases text rest <;> rfl
  · intro _ _ _ _ _ _ _ _ _ same
    exact absurd same other
  · intro _ _ _ _ _ same
    exact absurd same other

theorem text_unescaped (quote : c ≠ '"') (slash : c ≠ '\\') (control : ¬ c.toNat < 0x20) :
    text (c :: rest) = (text rest).map (scanned c) := by
  rw [text]
  · simp only [slash, control, decide_false, Bool.or_self, Bool.false_eq_true, if_false]
    cases text rest <;> rfl
  all_goals grind

theorem unit_control {n : Nat} (control : n < 0x20) :
    unit '0' '0' (Nat.digitChar (n / 16)) (Nat.digitChar (n % 16)) = some n := by
  revert n
  decide

/-- A character is read as it is spelled. -/
theorem text_spell (c : Char) : text (Writer.spell c ++ rest) = (text rest).map (scanned c) := by
  unfold Writer.spell
  split_ifs with quote slash newline carriage tab back feed control
  · subst quote
    exact text_letter rfl
  · subst slash
    exact text_letter rfl
  · subst newline
    exact text_letter rfl
  · subst carriage
    exact text_letter rfl
  · subst tab
    exact text_letter rfl
  · subst back
    exact text_letter rfl
  · subst feed
    exact text_letter rfl
  · have high : isHigh c.toNat = false := by
      simp only [isHigh]
      grind
    have low : isLow c.toNat = false := by
      simp only [isLow]
      grind
    have read := @text_unit rest _ _ _ _ _ (unit_control control) high low
    rwa [Char.ofNat_toNat] at read
  · exact text_unescaped quote slash control

theorem text_write (cs rest : List Char) :
    text (cs.flatMap Writer.spell ++ '"' :: rest) = some (cs.map some, rest) := by
  induction cs with
  | nil => rw [List.flatMap_nil, List.nil_append, text, List.map_nil]
  | cons c cs ih =>
    rw [List.flatMap_cons, List.append_assoc, text_spell, ih]
    rfl

theorem paired_map_some (cs : List Char) : paired (cs.map some) = some cs := by
  induction cs with
  | nil => rfl
  | cons c cs ih => rw [List.map_cons, paired, ih, Option.map_some]

theorem ofScanned_toList (s : String) : ofScanned (s.toList.map some) = .text s := by
  simp only [ofScanned, paired_map_some, String.ofList_toList]

theorem ofFields_toList (fields : List (String × Json)) :
    ofFields (fields.map fun field => (field.1.toList.map some, field.2)) = .object fields := by
  have each : (fields.map fun field => (field.1.toList.map some, field.2)).mapM
      (fun field => (paired field.1).map fun cs => (String.ofList cs, field.2)) =
        some fields := by
    induction fields with
    | nil => rfl
    | cons field fields ih =>
      rw [List.map_cons, List.mapM_cons, ih]
      simp only [paired_map_some, Option.map_some, String.ofList_toList]
      rfl
  rw [ofFields]
  split
  · rename_i found
    rw [Option.some.inj (found.symm.trans each)]
  · rename_i none
    cases none.symm.trans each

/-! ## Numbers -/

/-- What may stand behind a number: nothing that goes on with it. -/
def Stops (rest : List Char) : Prop :=
  ∀ c ∈ rest.head?, c.isDigit = false ∧ c ≠ '.' ∧ c ≠ 'e' ∧ c ≠ 'E'

theorem digits_append {n : Nat} (stops : Stops rest) :
    digits (Numeral.digits n ++ rest) = (Numeral.digits n, rest) := by
  obtain ⟨taken, left⟩ := Numeral.takeWhile_append
    (fun c => @Numeral.isDigit_of_mem_digits n c) fun c front => (stops c front).1
  rw [digits, List.span_eq_takeWhile_dropWhile, taken, left]

theorem fraction_of_stops (stops : Stops rest) : fraction rest = some ([], rest) := by
  cases rest with
  | nil => rfl
  | cons c rest =>
    rw [fraction]
    intro _ same
    exact (stops c rfl).2.1 (List.cons_eq_cons.1 same).1

theorem exponent_of_stops (stops : Stops rest) : exponent rest = some ([], rest) := by
  cases rest with
  | nil => rfl
  | cons c rest =>
    obtain ⟨-, -, small, capital⟩ := stops c rfl
    simp [exponent, small, capital]

/-- The digits of a number are read as the number, with the sign that was in front of them. -/
theorem number_digits {negative : Bool} {n : Nat} (signed : negative = true → 0 < n)
    (stops : Stops rest) : number negative (Numeral.digits n ++ rest) =
      some (.integer (if negative then -n else n), rest) := by
  have some' : (Numeral.digits n).isEmpty = false :=
    List.isEmpty_eq_false_iff.2 (Numeral.digits_ne_nil n)
  have leading :
      ((Numeral.digits n).length > 1 && (Numeral.digits n).head? = some '0') = false := by
    rcases Nat.eq_zero_or_pos n with rfl | positive
    · rw [Numeral.digits]
      decide
    · simp [Numeral.head?_digits_ne_zero positive]
  have zero : (negative && Numeral.digits n = ['0']) = false := by
    cases negative with
    | false => rfl
    | true =>
      have nonzero : Numeral.digits n ≠ ['0'] := fun same =>
        Numeral.head?_digits_ne_zero (signed rfl) (congrArg List.head? same)
      simp [nonzero]
  simp only [number, digits_append stops, some', leading, zero, Bool.or_self, Bool.false_eq_true,
    if_false, fraction_of_stops stops, exponent_of_stops stops, Option.bind_eq_bind,
    Option.bind_some, Numeral.value_digits]
  rfl

/-! ## Values -/

theorem stops_comma : Stops (',' :: rest) := by
  simp [Stops]

theorem stops_items (more : List Json) : Stops (Writer.items more ++ rest) := by
  cases more <;> simp [Writer.items, Stops]

theorem stops_fields (more : List (String × Json)) : Stops (Writer.fields more ++ rest) := by
  cases more <;> simp [Writer.fields, Stops]

variable {fuel : Nat}

theorem skip_cons (solid : isSpace c = false) : skip (c :: rest) = c :: rest :=
  List.dropWhile_cons_of_neg (by simp [solid])

theorem value_text (s : String) (rest : List Char) :
    value (fuel + 1) (Writer.text s ++ rest) = some (.text s, rest) := by
  have whole : Writer.text s ++ rest =
      '"' :: (s.toList.flatMap Writer.spell ++ '"' :: rest) := by
    simp [Writer.text]
  rw [whole, value, skip_cons (by decide)]
  simp only [text_write, Option.bind_eq_bind, Option.bind_some, ofScanned_toList]
  rfl

theorem ne_of_isDigit {d : Char} (digit : c.isDigit = true) (other : d.isDigit = false) :
    c ≠ d := by
  rintro rfl
  exact absurd (digit.symm.trans other) (by decide)

theorem not_isSpace_of_isDigit (digit : c.isDigit = true) : isSpace c = false := by
  have other {d : Char} : d.isDigit = false → c ≠ d := ne_of_isDigit digit
  simp [isSpace, @other ' ' rfl, @other '\n' rfl, @other '\r' rfl, @other '\t' rfl]

theorem value_digit (digit : c.isDigit = true) :
    value (fuel + 1) (c :: rest) = number false (c :: rest) := by
  rw [value, skip_cons (not_isSpace_of_isDigit digit)]
  -- All other forms start with something that is no digit.
  split <;> rename_i form <;>
    first | rfl | exact absurd (List.cons_eq_cons.1 form).1 (ne_of_isDigit digit rfl)

theorem value_integer (n : Int) (stops : Stops rest) :
    value (fuel + 1) ((Numeral.ofInt n).toList ++ rest) = some (.integer n, rest) := by
  cases n with
  | ofNat n =>
    obtain ⟨c, tail, same⟩ := List.exists_cons_of_ne_nil (Numeral.digits_ne_nil n)
    have digit : c.isDigit = true :=
      Numeral.isDigit_of_mem_digits (same ▸ List.mem_cons_self)
    have read := @number_digits rest false n nofun stops
    rw [Numeral.ofInt, Numeral.toList_ofNat]
    rw [same, List.cons_append] at read ⊢
    rw [value_digit digit, read]
    rfl
  | negSucc n =>
    rw [Numeral.toList_ofInt_negSucc, List.cons_append, value, skip_cons (by decide)]
    exact @number_digits rest true (n + 1) (fun _ => Nat.succ_pos n) stops

/-- A value that is written starts with something solid, which closes nothing. -/
theorem exists_front {v : Json} (plain : v.isPlain = true) :
    ∃ c tail, Writer.value v = c :: tail ∧ isSpace c = false ∧ c ≠ ']' := by
  match v with
  | null | bool true | bool false | .text _ | array [] | array (_ :: _) | object []
  | object (_ :: _) => exact ⟨_, _, rfl, by decide, by decide⟩
  | integer (.negSucc n) =>
    exact ⟨'-', _, Numeral.toList_ofInt_negSucc n, by decide, by decide⟩
  | integer (.ofNat n) =>
    obtain ⟨c, tail, same⟩ := List.exists_cons_of_ne_nil (Numeral.digits_ne_nil n)
    have digit : c.isDigit = true :=
      Numeral.isDigit_of_mem_digits (same ▸ List.mem_cons_self)
    refine ⟨c, tail, ?_, not_isSpace_of_isDigit digit, ne_of_isDigit digit rfl⟩
    rw [Writer.value, Numeral.ofInt, Numeral.toList_ofNat, same]

theorem skip_write {v : Json} (plain : v.isPlain = true) (rest : List Char) :
    skip (Writer.value v ++ rest) = Writer.value v ++ rest := by
  obtain ⟨c, tail, front, solid, -⟩ := exists_front plain
  rw [front, List.cons_append, skip_cons solid]

theorem length_write_pos {v : Json} (plain : v.isPlain = true) :
    0 < (Writer.value v).length := by
  obtain ⟨c, tail, front, -⟩ := exists_front plain
  rw [front]
  exact Nat.succ_pos _

/-- After an opening bracket, items are read if there are any. -/
theorem value_array {v : Json} {input : List Char} (plain : v.isPlain = true) {more : List Json}
    (read : items fuel (Writer.value v ++ input) = some (more, rest)) :
    value (fuel + 1) ('[' :: (Writer.value v ++ input)) = some (.array more, rest) := by
  obtain ⟨c, tail, front, -, open'⟩ := exists_front plain
  rw [value, skip_cons (by decide)]
  simp only [skip_write plain]
  split
  · rename_i closed
    rw [front] at closed
    exact absurd (List.cons_eq_cons.1 closed).1 open'
  · rw [read]
    rfl

theorem skip_text (name : String) (input : List Char) :
    skip (Writer.text name ++ input) = Writer.text name ++ input := skip_cons (by decide)

/-- After an opening brace, fields are read if there are any. -/
theorem value_object {name : String} {input : List Char}
    {found : List (List (Option Char) × Json)}
    (read : fields fuel (Writer.text name ++ input) = some (found, rest)) :
    value (fuel + 1) ('{' :: (Writer.text name ++ input)) = some (ofFields found, rest) := by
  rw [value, skip_cons (by decide)]
  simp only [skip_text]
  split
  · rename_i closed
    exact absurd (List.cons_eq_cons.1 closed).1 (by decide)
  · rw [read]
    rfl

theorem items_last {input : List Char} {item : Json}
    (read : value fuel input = some (item, ']' :: rest)) :
    items (fuel + 1) input = some ([item], rest) := by
  rw [items, read]
  rfl

theorem items_next {input tail : List Char} {item : Json} {more : List Json}
    (read : value fuel input = some (item, ',' :: tail))
    (later : items fuel tail = some (more, rest)) :
    items (fuel + 1) input = some (item :: more, rest) := by
  rw [items, read]
  simp only [Option.bind_eq_bind, Option.bind_some, skip_cons (show isSpace ',' = false by decide),
    later]
  rfl

/-- A name is read, and then what stands behind the colon. -/
theorem fields_eq (name : String) (input : List Char) :
    fields (fuel + 1) (Writer.text name ++ ':' :: input) = (do
      let (item, rest) ← value fuel input
      match skip rest with
      | '}' :: rest => return ([(name.toList.map some, item)], rest)
      | ',' :: rest =>
        let (more, rest) ← fields fuel rest
        return ((name.toList.map some, item) :: more, rest)
      | _ => none) := by
  have whole : Writer.text name ++ ':' :: input =
      '"' :: (name.toList.flatMap Writer.spell ++ '"' :: ':' :: input) := by
    simp [Writer.text]
  rw [whole, fields, skip_cons (by decide)]
  change (text (name.toList.flatMap Writer.spell ++ '"' :: ':' :: input) >>= _) = _
  rw [text_write]
  rfl

theorem fields_last {name : String} {input : List Char} {item : Json}
    (read : value fuel input = some (item, '}' :: rest)) :
    fields (fuel + 1) (Writer.text name ++ ':' :: input) =
      some ([(name.toList.map some, item)], rest) := by
  rw [fields_eq, read]
  rfl

theorem fields_next {name : String} {input tail : List Char} {item : Json}
    {more : List (List (Option Char) × Json)}
    (read : value fuel input = some (item, ',' :: tail))
    (later : fields fuel tail = some (more, rest)) :
    fields (fuel + 1) (Writer.text name ++ ':' :: input) =
      some ((name.toList.map some, item) :: more, rest) := by
  rw [fields_eq, read]
  simp only [Option.bind_eq_bind, Option.bind_some, skip_cons (show isSpace ',' = false by decide),
    later]
  rfl

/-! ## Under a bound -/

/-- Under a bound, plain values whose texts are no longer than it are read as they are written. -/
def ReadsValues (fuel : Nat) : Prop :=
  ∀ v rest, v.isPlain = true → Stops rest → (Writer.value v).length ≤ fuel →
    value fuel (Writer.value v ++ rest) = some (v, rest)

/-- So are items, up to the bracket that closes them. -/
def ReadsItems (fuel : Nat) : Prop :=
  ∀ item more rest, allPlain (item :: more) = true →
    (Writer.value item ++ Writer.items more).length ≤ fuel →
      items fuel (Writer.value item ++ (Writer.items more ++ rest)) = some (item :: more, rest)

/-- So are fields, up to the brace that closes them. -/
def ReadsFields (fuel : Nat) : Prop :=
  ∀ name item more rest, fieldsPlain ((name, item) :: more) = true →
    (Writer.value item ++ Writer.fields more).length ≤ fuel →
      fields fuel (Writer.text name ++ ':' :: (Writer.value item ++ (Writer.fields more ++ rest))) =
        some (((name, item) :: more).map fun field => (field.1.toList.map some, field.2), rest)

theorem readsItems_succ (values : ReadsValues fuel) (later : ReadsItems fuel) :
    ReadsItems (fuel + 1) := by
  intro item more rest plain enough
  obtain ⟨first, plain⟩ := Bool.and_eq_true_iff.1 plain
  have positive := length_write_pos first
  rw [List.length_append] at enough
  cases more with
  | nil =>
    exact items_last (values item _ first (stops_items []) (Nat.le_of_succ_le_succ enough))
  | cons next more =>
    rw [Writer.items, List.length_cons] at enough
    have inner := later next more rest plain (by omega)
    rw [← List.append_assoc] at inner
    exact items_next (values item _ first stops_comma (by omega)) inner

theorem readsFields_succ (values : ReadsValues fuel) (later : ReadsFields fuel) :
    ReadsFields (fuel + 1) := by
  intro name item more rest plain enough
  obtain ⟨first, plain⟩ := Bool.and_eq_true_iff.1 plain
  have positive := length_write_pos first
  rw [List.length_append] at enough
  cases more with
  | nil =>
    exact fields_last (values item _ first (stops_fields []) (Nat.le_of_succ_le_succ enough))
  | cons next more =>
    obtain ⟨name', next⟩ := next
    rw [Writer.fields, List.length_cons, List.length_append, List.length_cons] at enough
    have inner := later name' next more rest plain (by omega)
    have front : Writer.fields ((name', next) :: more) ++ rest =
        ',' :: (Writer.text name' ++
          ':' :: (Writer.value next ++ (Writer.fields more ++ rest))) := by
      simp [Writer.fields]
    rw [front]
    exact fields_next (values item _ first stops_comma (by omega)) inner

theorem readsValues_succ (items : ReadsItems fuel) (fields : ReadsFields fuel) :
    ReadsValues (fuel + 1) := by
  intro v rest plain stops enough
  match v with
  | null => rw [Writer.value, List.cons_append, value, skip_cons (by decide)]; rfl
  | bool true => rw [Writer.value, List.cons_append, value, skip_cons (by decide)]; rfl
  | bool false => rw [Writer.value, List.cons_append, value, skip_cons (by decide)]; rfl
  | integer n => exact value_integer n stops
  | .text s => exact value_text s rest
  | array [] => rw [Writer.value, List.cons_append, value, skip_cons (by decide)]; rfl
  | array (item :: more) =>
    have inner := items item more rest plain (Nat.le_of_succ_le_succ enough)
    rw [Writer.value, List.cons_append, List.append_assoc]
    exact value_array (Bool.and_eq_true_iff.1 plain).1 inner
  | object [] => rw [Writer.value, List.cons_append, value, skip_cons (by decide)]; rfl
  | object ((name, item) :: more) =>
    rw [Writer.value, List.length_cons, List.length_append, List.length_cons] at enough
    have inner := fields name item more rest plain (by omega)
    rw [Writer.value, List.cons_append, List.append_assoc, List.cons_append, List.append_assoc,
      value_object inner, ofFields_toList]

/-- The induction is on the bound, as the reader recurses on it. -/
theorem reads_write (fuel : Nat) : ReadsValues fuel ∧ ReadsItems fuel ∧ ReadsFields fuel := by
  induction fuel with
  | zero =>
    refine ⟨fun v rest plain _ enough => ?_, fun item more rest plain enough => ?_,
      fun name item more rest plain enough => ?_⟩
    · exact absurd (length_write_pos plain) (by omega)
    · have positive := length_write_pos (Bool.and_eq_true_iff.1 plain).1
      rw [List.length_append] at enough
      omega
    · have positive := length_write_pos (Bool.and_eq_true_iff.1 plain).1
      rw [List.length_append] at enough
      omega
  | succ fuel ih =>
    obtain ⟨values, items, fields⟩ := ih
    exact ⟨readsValues_succ items fields, readsItems_succ values items,
      readsFields_succ values fields⟩

end Reader

/-- A plain value is read back from its text. -/
theorem read_write {v : Json} (plain : v.isPlain = true) : read (write v) = some v := by
  have stops : Reader.Stops [] := by simp [Reader.Stops]
  have length : (write v).length = (Writer.value v).length := by
    rw [write, String.length_ofList]
  have whole := (Reader.reads_write (2 * (write v).length + 2)).1 v [] plain stops (by omega)
  rw [List.append_nil] at whole
  rw [read, write, String.toList_ofList, ← write, whole]
  rfl

end RingOperator.Json
