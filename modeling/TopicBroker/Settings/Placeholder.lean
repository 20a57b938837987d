/-!
# Placeholders in settings files

Before a settings file is read, the values of environment variables are put in
place of its placeholders.  A placeholder is `${NAME}` or `${NAME:-DEFAULT}`, where the
name is not empty and holds neither `}` nor `:`, and the default holds no `}`.
It stands for the value of the variable if that is set, and otherwise for the
default, or for nothing.

The text is scanned once from left to right.  What takes the place of a
placeholder is not scanned again.  `substitute_of_placeholder` and `substitute_cons`
say what happens at each position: a placeholder is replaced as a whole, and any other
character is copied.

The scan takes time in proportion to the text: where a `${` starts no placeholder,
it goes on behind all characters that cannot start one for the same reason.
-/

namespace TopicBroker.Placeholder

/-- A placeholder, and the text behind it. -/
structure Occurrence where
  name : List Char
  standard : List Char
  rest : List Char
  deriving DecidableEq, Repr

/-- Whether a character may stand in the name of a placeholder. -/
def inName (character : Char) : Bool := character ≠ '\x7d' && character ≠ ':'

/-- Whether a character may stand in the default of a placeholder. -/
def inDefault (character : Char) : Bool := character ≠ '\x7d'

/-- The placeholder with the given name that a text goes on with after the name. -/
def ending? (name : List Char) : List Char → Option Occurrence
  | '\x7d' :: rest => some ⟨name, [], rest⟩
  | ':' :: '-' :: tail =>
    match tail.dropWhile inDefault with
    | _ :: rest => some ⟨name, tail.takeWhile inDefault, rest⟩
    | [] => none
  | _ => none

/-- The placeholder that a text goes on with after `${`. -/
def occurrence? (text : List Char) : Option Occurrence :=
  if (text.takeWhile inName).isEmpty then none
  else ending? (text.takeWhile inName) (text.dropWhile inName)

/-- The placeholder that a text starts with. -/
def placeholder? : List Char → Option Occurrence
  | '$' :: '\x7b' :: tail => occurrence? tail
  | _ => none

theorem length_rest_lt_of_ending {name text : List Char} {found : Occurrence}
    (ends : ending? name text = some found) : found.rest.length < text.length := by
  unfold ending? at ends
  split at ends
  · cases ends
    simp
  · rename_i tail
    split at ends
    · rename_i first rest dropped
      cases ends
      have shorter := congrArg List.length dropped
      have bounded : (tail.dropWhile inDefault).length ≤ tail.length :=
        (List.dropWhile_sublist inDefault).length_le
      simp only [List.length_cons] at shorter ⊢
      omega
    · cases ends
  · cases ends

/-- A placeholder takes up some of the text. -/
theorem length_rest_lt {text : List Char} {found : Occurrence}
    (occurs : occurrence? text = some found) : found.rest.length < text.length := by
  unfold occurrence? at occurs
  split at occurs
  · cases occurs
  · exact Nat.lt_of_lt_of_le (length_rest_lt_of_ending occurs)
      (List.dropWhile_sublist inName).length_le

/-- Cut the text behind a `${` that starts no placeholder, such that no placeholder starts in the
first part either.  If the name could go on with a default, then no brace is left that could close
this one or a later one, and the first part is the whole text. -/
def splitBarren (text : List Char) : List Char × List Char :=
  match text.dropWhile inName with
  | ':' :: '-' :: rest =>
    if (text.takeWhile inName).isEmpty then ([], ':' :: '-' :: rest) else (text, [])
  | rest => (text.takeWhile inName, rest)

theorem splitBarren_append (text : List Char) :
    (splitBarren text).1 ++ (splitBarren text).2 = text := by
  unfold splitBarren
  split
  · rename_i rest dropped
    split
    · rename_i noName
      have whole := List.takeWhile_append_dropWhile (p := inName) (l := text)
      rw [List.isEmpty_iff.1 noName, dropped] at whole
      exact whole
    · simp
  · exact List.takeWhile_append_dropWhile

/-- Put values in place of the placeholders of a text. -/
def substitute (value? : List Char → Option (List Char)) (text : List Char) : List Char :=
  match text with
  | '$' :: '\x7b' :: tail =>
    match _occurs : occurrence? tail with
    | some occurrence =>
      (value? occurrence.name).getD occurrence.standard ++ substitute value? occurrence.rest
    | none =>
      '$' :: '\x7b' :: (splitBarren tail).1 ++ substitute value? (splitBarren tail).2
  | first :: rest => first :: substitute value? rest
  | [] => []
termination_by text.length
decreasing_by
  · have := length_rest_lt (by assumption)
    simp only [List.length_cons]
    omega
  · have := congrArg List.length (splitBarren_append tail)
    simp only [List.length_append, List.length_cons] at this ⊢
    omega
  · simp

variable (value? : List Char → Option (List Char))

@[simp]
theorem substitute_nil : substitute value? [] = [] := by
  simp [substitute]

theorem substitute_of_placeholder {text : List Char} {found : Occurrence}
    (starts : placeholder? text = some found) :
    substitute value? text =
      (value? found.name).getD found.standard ++ substitute value? found.rest := by
  unfold placeholder? at starts
  split at starts
  · rw [substitute]
    split <;> simp_all
  · cases starts

theorem substitute_of_barren {tail : List Char} (barren : occurrence? tail = none) :
    substitute value? ('$' :: '\x7b' :: tail) =
      '$' :: '\x7b' :: (splitBarren tail).1 ++ substitute value? (splitBarren tail).2 := by
  rw [substitute]
  split
  · simp_all
  · rfl

theorem substitute_cons_of_plain {first : Char} {rest : List Char}
    (plain : ∀ tail, first = '$' → rest = '\x7b' :: tail → False) :
    substitute value? (first :: rest) = first :: substitute value? rest := by
  rw [substitute]
  exact plain

theorem brace_mem_of_ending {name text : List Char} {found : Occurrence}
    (ends : ending? name text = some found) : '\x7d' ∈ text := by
  unfold ending? at ends
  split at ends
  · simp
  · rename_i tail
    split at ends
    · rename_i first rest dropped
      have last : inDefault first = false := by
        simpa [dropped] using List.head?_dropWhile_not inDefault tail
      have brace : first = '\x7d' := by simpa [inDefault] using last
      have member : '\x7d' ∈ tail.dropWhile inDefault := by simp [dropped, brace]
      simp [(List.dropWhile_sublist inDefault).subset member]
    · cases ends
  · cases ends

/-- Every placeholder needs a brace that closes it. -/
theorem brace_mem_of_occurrence {text : List Char} {found : Occurrence}
    (occurs : occurrence? text = some found) : '\x7d' ∈ text := by
  unfold occurrence? at occurs
  split at occurs
  · cases occurs
  · exact (List.dropWhile_sublist inName).subset (brace_mem_of_ending occurs)

theorem substitute_eq_self {text : List Char} (noBrace : '\x7d' ∉ text) :
    substitute value? text = text := by
  fun_induction substitute value? text with
  | case1 tail found occurs ih =>
    have := brace_mem_of_occurrence occurs
    simp_all
  | case2 tail barren ih =>
    have whole := splitBarren_append tail
    have noneLeft : '\x7d' ∉ (splitBarren tail).2 := fun member =>
      noBrace (by rw [← whole]; simp [member])
    rw [ih noneLeft, List.cons_append, List.cons_append, whole]
  | case3 first rest _ ih => simp_all
  | case4 => rfl

/-- A run of characters that could stand in a name is copied if the name would end in vain. -/
theorem substitute_append_of_vain (run stop : List Char)
    (inRun : ∀ character ∈ run, inName character = true)
    (outside : stop.takeWhile inName = [])
    (vain : ∀ name, ending? name stop = none) (noDefault : ∀ rest, stop ≠ ':' :: '-' :: rest) :
    substitute value? (run ++ stop) = run ++ substitute value? stop := by
  match run with
  | [] => rfl
  | first :: rest =>
    by_cases opens : ∃ tail, first = '$' ∧ rest = '\x7b' :: tail
    · obtain ⟨tail, rfl, rfl⟩ := opens
      have inTail : ∀ character ∈ tail, inName character = true := by simp_all
      have behind : stop.dropWhile inName = stop := by
        simpa [outside] using List.takeWhile_append_dropWhile (p := inName) (l := stop)
      have taken : (tail ++ stop).takeWhile inName = tail := by
        rw [List.takeWhile_append_of_pos inTail, outside, List.append_nil]
      have dropped : (tail ++ stop).dropWhile inName = stop := by
        rw [List.dropWhile_append_of_pos inTail, behind]
      have barren : occurrence? (tail ++ stop) = none := by
        simp [occurrence?, taken, dropped, vain]
      have cut : splitBarren (tail ++ stop) = (tail, stop) := by
        unfold splitBarren
        split
        · exact absurd (dropped.symm.trans ‹_›) (noDefault _)
        · rw [taken, dropped]
      rw [List.cons_append, List.cons_append, substitute_of_barren value? barren, cut]
    · have plain : ∀ tail, first = '$' → rest ++ stop = '\x7b' :: tail → False := by
        intro tail dollar brace
        cases rest with
        | nil =>
          rw [List.nil_append] at brace
          simp [brace, inName] at outside
        | cons second rest => simp_all
      rw [List.cons_append, substitute_cons_of_plain value? plain,
        substitute_append_of_vain rest stop (by simp_all) outside vain noDefault]
      rfl

/-- Whether a placeholder ends here does not depend on its name. -/
theorem ending?_eq_none_of_name {name text : List Char} (vain : ending? name text = none)
    (other : List Char) : ending? other text = none := by
  unfold ending? at vain ⊢
  split <;> simp_all
  split <;> simp_all

/-- A default that does not end leaves no brace. -/
theorem brace_notMem_of_vain {name rest : List Char}
    (vain : ending? name (':' :: '-' :: rest) = none) : '\x7d' ∉ rest := by
  have whole := List.takeWhile_append_dropWhile (p := inDefault) (l := rest)
  cases dropped : rest.dropWhile inDefault with
  | nil =>
    rw [dropped, List.append_nil] at whole
    rw [← whole]
    exact fun member => absurd (List.all_eq_true.1 List.all_takeWhile _ member) (by decide)
  | cons first behind => simp [ending?, dropped] at vain

theorem takeWhile_dropWhile_inName (text : List Char) :
    (text.dropWhile inName).takeWhile inName = [] := by
  cases rest : text.dropWhile inName with
  | nil => rfl
  | cons first behind =>
    have outside : inName first = false := by
      simpa [rest] using List.head?_dropWhile_not inName text
    rw [List.takeWhile_cons_of_neg (by simp [outside])]

theorem substitute_eq_splitBarren {text : List Char} (barren : occurrence? text = none) :
    substitute value? text = (splitBarren text).1 ++ substitute value? (splitBarren text).2 := by
  have whole := List.takeWhile_append_dropWhile (p := inName) (l := text)
  by_cases noName : (text.takeWhile inName).isEmpty
  · have nothing := List.isEmpty_iff.1 noName
    rw [nothing, List.nil_append] at whole
    unfold splitBarren
    split
    · rename_i rest dropped
      rw [if_pos noName, ← dropped, whole, List.nil_append]
    · rw [nothing, whole, List.nil_append]
  · have vain : ending? (text.takeWhile inName) (text.dropWhile inName) = none := by
      simpa [occurrence?, noName] using barren
    unfold splitBarren
    split
    · rename_i rest dropped
      have noBrace : '\x7d' ∉ text := by
        rw [← whole, dropped, List.mem_append, not_or]
        rw [dropped] at vain
        exact ⟨fun member => absurd (List.all_eq_true.1 List.all_takeWhile _ member) (by decide),
          by simpa using brace_notMem_of_vain vain⟩
      simp [noName, substitute_eq_self value? noBrace]
    · rename_i noDefault
      have copied := substitute_append_of_vain value? (text.takeWhile inName)
        (text.dropWhile inName) (List.all_eq_true.1 List.all_takeWhile)
        (takeWhile_dropWhile_inName text) (ending?_eq_none_of_name vain) noDefault
      rwa [whole] at copied

/-- A character that starts no placeholder is copied. -/
theorem substitute_cons {first : Char} {rest : List Char}
    (vain : placeholder? (first :: rest) = none) :
    substitute value? (first :: rest) = first :: substitute value? rest := by
  by_cases opens : ∃ tail, first = '$' ∧ rest = '\x7b' :: tail
  · obtain ⟨tail, rfl, rfl⟩ := opens
    have brace : substitute value? ('\x7b' :: tail) = '\x7b' :: substitute value? tail :=
      substitute_cons_of_plain value? (by simp)
    rw [substitute_of_barren value? vain, brace, substitute_eq_splitBarren value? vain]
    rfl
  · exact substitute_cons_of_plain value? fun tail dollar brace => opens ⟨tail, dollar, brace⟩

end TopicBroker.Placeholder
