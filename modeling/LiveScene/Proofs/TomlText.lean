import LiveScene.Config.Toml
import LiveScene.Proofs.Quoting

/-! # Written TOML read back

A document that was written is read statement by statement. Each statement is read for itself,
whatever lines follow it; a bound on the length of the chain of calls is never met, since there are
more characters than statements and values.
-/

namespace LiveScene

open Text

namespace Toml

/-! ## Values -/

theorem head?_writeChar_append (c : Char) (text : List Char) :
    (writeChar c ++ text).head? ≠ some '"' := by
  unfold writeChar
  split
  next => simp
  next hquoted =>
    split
    next => simp
    next => simpa using fun heq => hquoted (Or.inl heq)

/-- A string is read back unless another quote follows it. -/
theorem value?_quote (fuel depth : Nat) (s : String) (rest : List Char)
    (hrest : rest.head? ≠ some '"') :
    value? (fuel + 1) depth ((quote s).toList ++ rest) = some (.str s, rest) := by
  have hshort : ∀ more, s.toList.flatMap writeChar ++ '"' :: rest ≠ '"' :: '"' :: more := by
    intro more heq
    cases hchars : s.toList with
    | nil =>
        rw [hchars] at heq
        cases heq
        exact hrest rfl
    | cons c cs =>
        rw [hchars, List.flatMap_cons, List.append_assoc] at heq
        exact head?_writeChar_append c _ (congrArg List.head? heq)
  rw [toList_quote, List.cons_append, List.append_assoc, List.singleton_append,
    value?.eq_3 _ _ _ hshort, basicTail?_written]
  simp

theorem plainDigits?_of_isDigit {digits : List Char} (hne : digits ≠ [])
    (hdigits : ∀ c ∈ digits, c.isDigit = true) :
    plainDigits? Char.isDigit digits = some digits := by
  fun_induction plainDigits? Char.isDigit digits with
  | case1 => exact absurd rfl hne
  | case2 c hc => rfl
  | case3 c hc => exact absurd (hdigits c (by simp)) hc
  | case4 c rest hc ih => exact absurd (hdigits '_' (by simp)) (by decide)
  | case5 c rest hc => exact absurd (hdigits '_' (by simp)) (by decide)
  | case6 c rest hrest hunderscore hc ih =>
      rw [ih hrest fun d hd => hdigits d (List.mem_cons_of_mem c hd)]
      rfl
  | case7 c rest hrest hunderscore hc => exact absurd (hdigits c (by simp)) hc

/-- The digits of a number have no needless zero in front. -/
theorem wholeDigits?_toDigits (n : Nat) :
    wholeDigits? (Nat.toDigits 10 n) = some (Nat.toDigits 10 n) := by
  have hdigits : ∀ c ∈ Nat.toDigits 10 n, c.isDigit = true := fun _ =>
    isDigit_of_mem_toDigits
  rw [wholeDigits?, plainDigits?_of_isDigit Nat.toDigits_ne_nil hdigits]
  by_cases hn : n = 0
  · subst hn
    rfl
  · have hhead := head?_toDigits_ne (Nat.pos_of_ne_zero hn)
    generalize Nat.toDigits 10 n = digits at hhead
    dsimp only [Option.bind_eq_bind, Option.bind_some]
    split
    next => exact absurd rfl hhead
    next => rfl

/-- A token of digits has neither a sign nor the letter of a base. -/
theorem integer?_of_isDigit {token : List Char} (htoken : ∀ c ∈ token, c.isDigit = true) :
    integer? token = ((wholeDigits? token).map fun digits => (digitsValue digits : Int)).bind
      fun n => if -0x8000000000000000 ≤ n ∧ n < 0x8000000000000000 then some n else none := by
  have hnot : ∀ c, c.isDigit = false → c ∉ token := by
    intro c hc hmem
    rw [htoken c hmem] at hc
    cases hc
  have hsign : splitSign token = (false, token) := by
    unfold splitSign
    split
    next => exact absurd List.mem_cons_self (hnot '-' (by decide))
    next => exact absurd List.mem_cons_self (hnot '+' (by decide))
    next => rfl
  rw [integer?.eq_def]
  split
  next => exact absurd (by simp) (hnot 'x' (by decide))
  next => exact absurd (by simp) (hnot 'o' (by decide))
  next => exact absurd (by simp) (hnot 'b' (by decide))
  next =>
    rw [hsign]
    rfl

theorem scalar?_toDigits {n : Nat} (hn : n < 0x8000000000000000) :
    Toml.scalar? (Nat.toDigits 10 n) = some (.integer n) := by
  have hdigits : ∀ c ∈ Nat.toDigits 10 n, c.isDigit = true := fun _ =>
    isDigit_of_mem_toDigits
  have hinteger : integer? (Nat.toDigits 10 n) = some (n : Int) := by
    rw [integer?_of_isDigit hdigits, wholeDigits?_toDigits, Option.map_some, Option.bind_some,
      digitsValue_toDigits, if_pos ⟨by omega, by omega⟩]
  have hword : ∀ c word, c.isDigit = false → Nat.toDigits 10 n ≠ c :: word := by
    intro c word hc heq
    have hdigit := hdigits c (by rw [heq]; exact List.mem_cons_self)
    rw [hc] at hdigit
    cases hdigit
  rw [Toml.scalar?, if_neg (hword 't' _ (by decide)), if_neg (hword 'f' _ (by decide)), hinteger]

/-- A value that starts like a token is one. -/
theorem value?_token (fuel depth : Nat) {c : Char} (hc : isTokenChar c = true) (text : List Char) :
    value? (fuel + 1) depth (c :: text) =
      (Toml.scalar? (spanToken (c :: text)).1).map (·, (spanToken (c :: text)).2) := by
  have hfirst : ∀ d more, isTokenChar d = false → c :: text ≠ d :: more := by
    intro d more hd heq
    rw [(List.cons.inj heq).1, hd] at hc
    cases hc
  rw [value?.eq_def]
  dsimp only
  split
  next heq => exact absurd heq (hfirst _ _ (by decide))
  next heq => exact absurd heq (hfirst _ _ (by decide))
  next heq => exact absurd heq (hfirst _ _ (by decide))
  next heq => exact absurd heq (hfirst _ _ (by decide))
  next heq => exact absurd heq (hfirst _ _ (by decide))
  next heq => exact absurd heq (hfirst _ _ (by decide))
  next => cases Toml.scalar? (spanToken (c :: text)).1 <;> rfl

theorem isTokenChar_of_isDigit {c : Char} (hc : c.isDigit = true) : isTokenChar c = true := by
  simp [isTokenChar, Char.isAlphanum, hc]

theorem value?_toDigits (fuel depth : Nat) {n : Nat} (hn : n < 0x8000000000000000)
    (rest : List Char) :
    value? (fuel + 1) depth (Nat.toDigits 10 n ++ '\n' :: rest) =
      some (.integer n, '\n' :: rest) := by
  have htoken : ∀ c ∈ Nat.toDigits 10 n, isTokenChar c = true := fun c hc =>
    isTokenChar_of_isDigit (isDigit_of_mem_toDigits hc)
  have hspan : spanToken (Nat.toDigits 10 n ++ '\n' :: rest) =
      (Nat.toDigits 10 n, '\n' :: rest) := by
    rw [spanToken, span_append htoken (by simp [isTokenChar])]
    rfl
  cases hdigits : Nat.toDigits 10 n with
  | nil => exact absurd hdigits Nat.toDigits_ne_nil
  | cons c cs =>
      rw [hdigits] at htoken hspan
      rw [List.cons_append] at hspan ⊢
      rw [value?_token fuel depth (htoken c List.mem_cons_self), hspan, ← hdigits,
        scalar?_toDigits hn]
      rfl

/-! ## Arrays of strings -/

theorem items?_comma (fuel depth : Nat) (s : String) (rest : List Char) :
    items? (fuel + 2) depth ((quote s).toList ++ ',' :: rest) =
      (items? (fuel + 1) depth rest).map fun read => (.str s :: read.1, read.2) := by
  have hvalue := value?_quote fuel depth s (',' :: rest) (by simp)
  rw [toList_quote, List.cons_append] at hvalue ⊢
  rw [items?]
  change ((value? (fuel + 1) depth _).bind _) = _
  rw [hvalue]
  change ((items? (fuel + 1) depth rest).bind _) = _
  cases items? (fuel + 1) depth rest <;> rfl

theorem items?_last (fuel depth : Nat) (s : String) (rest : List Char) :
    items? (fuel + 2) depth ((quote s).toList ++ ']' :: rest) = some ([.str s], rest) := by
  have hvalue := value?_quote fuel depth s (']' :: rest) (by simp)
  rw [toList_quote, List.cons_append] at hvalue ⊢
  rw [items?]
  change ((value? (fuel + 1) depth _).bind _) = _
  rw [hvalue]
  rfl

theorem items?_blank {c : Char} (hc : c = ' ' ∨ c = '\n') (fuel depth : Nat) (text : List Char) :
    items? fuel depth (c :: text) = items? fuel depth text := by
  have hskip : skipTrivia? false (c :: text) = skipTrivia? false text := by
    rcases hc with rfl | rfl <;> rfl
  cases fuel with
  | zero => rw [items?, items?]
  | succ fuel => rw [items?, items?, hskip]

/-- A string on a line of its own. -/
def sourceLine (source : String) : List Char :=
  ' ' :: ' ' :: ' ' :: ' ' :: ((quote source).toList ++ [',', '\n'])

theorem items?_sourceLine (fuel depth : Nat) (source : String) (rest : List Char) :
    items? (fuel + 2) depth (sourceLine source ++ rest) =
      (items? (fuel + 1) depth rest).map fun read => (.str source :: read.1, read.2) := by
  have htext : sourceLine source ++ rest =
      ' ' :: ' ' :: ' ' :: ' ' :: ((quote source).toList ++ ',' :: '\n' :: rest) := by
    simp [sourceLine]
  rw [htext, items?_blank (Or.inl rfl), items?_blank (Or.inl rfl), items?_blank (Or.inl rfl),
    items?_blank (Or.inl rfl), items?_comma, items?_blank (Or.inr rfl)]

theorem items?_sourceLines (fuel depth : Nat) (sources : List String) (rest : List Char) :
    items? (sources.length + fuel + 1) depth (sources.flatMap sourceLine ++ ']' :: rest) =
      some (sources.map .str, rest) := by
  induction sources generalizing fuel with
  | nil =>
      rw [List.flatMap_nil, List.nil_append, items?]
      rfl
  | cons source sources ih =>
      have hfuel : (source :: sources).length + fuel + 1 = sources.length + fuel + 2 := by
        rw [List.length_cons]
        omega
      rw [hfuel, List.flatMap_cons, List.append_assoc, items?_sourceLine, ih]
      rfl

theorem value?_array (fuel depth : Nat) (text : List Char) :
    value? (fuel + 1) (depth + 1) ('[' :: text) =
      (items? fuel depth text).map fun read => (.array read.1, read.2) := by
  rw [value?]

/-! ## Statements -/

/-- Keys that are written without quotes. -/
def IsBareKey (key : String) : Prop :=
  key.toList.isEmpty = false ∧ key.toList.all isBareKeyChar = true

instance (key : String) : Decidable (IsBareKey key) :=
  inferInstanceAs (Decidable (_ ∧ _))

theorem IsBareKey.forall_mem {key : String} (hkey : IsBareKey key) :
    ∀ c ∈ key.toList, isBareKeyChar c = true :=
  List.all_eq_true.mp hkey.2

theorem IsBareKey.exists_cons {key : String} (hkey : IsBareKey key) :
    ∃ c cs, key.toList = c :: cs ∧ isBareKeyChar c = true := by
  cases hchars : key.toList with
  | nil => exact absurd hchars (List.isEmpty_eq_false_iff.mp hkey.1)
  | cons c cs => exact ⟨c, cs, rfl, hkey.forall_mem c (by rw [hchars]; exact List.mem_cons_self)⟩

/-- A text that starts with a bare key does not start with any other mark. -/
theorem IsBareKey.append_ne {key : String} (hkey : IsBareKey key) {c : Char}
    (hc : isBareKeyChar c = false) (text more : List Char) : key.toList ++ text ≠ c :: more := by
  obtain ⟨d, cs, hchars, hd⟩ := hkey.exists_cons
  intro heq
  rw [hchars] at heq
  rw [(List.cons.inj heq).1, hc] at hd
  cases hd

theorem keyPath?_bare {key : String} (hkey : IsBareKey key) (parts : Nat) {text : List Char}
    (hstop : ∀ c ∈ text.head?, isBareKeyChar c = false)
    (hdot : (skipSpaces text).head? ≠ some '.') :
    keyPath? (parts + 1) (key.toList ++ text) = some (([], key), skipSpaces text) := by
  have hread : key? (key.toList ++ text) = some (key, text) := by
    obtain ⟨c, cs, hchars, -⟩ := hkey.exists_cons
    rw [key?, span_append hkey.forall_mem hstop, hchars]
    · simp [← hchars]
    -- Neither kind of quoted key can be meant: the first character is one of a bare key.
    · exact fun more => hkey.append_ne (by decide) text more
    · exact fun more => hkey.append_ne (by decide) text more
  rw [keyPath?, hread]
  dsimp only [Option.bind_eq_bind, Option.bind_some]
  split
  next heq => exact absurd (congrArg List.head? heq) hdot
  next => rfl

theorem skipSpaces_of_head? {text : List Char} (htext : ∀ c ∈ text.head?, c ≠ ' ' ∧ c ≠ '\t') :
    skipSpaces text = text := by
  cases text with
  | nil => rfl
  | cons c text =>
      have hc := htext c rfl
      simp [skipSpaces, hc]

theorem statement?_header {key : String} (hkey : IsBareKey key) (fuel : Nat) (rest : List Char) :
    statement? fuel ('[' :: (key.toList ++ ']' :: rest)) = some (.header [] key, rest) := by
  have hspaces : skipSpaces (key.toList ++ ']' :: rest) = key.toList ++ ']' :: rest := by
    refine skipSpaces_of_head? fun d hd => ?_
    obtain ⟨c, cs, hchars, hc⟩ := hkey.exists_cons
    rw [hchars] at hd
    cases hd
    constructor <;> rintro rfl <;> exact absurd hc (by decide)
  have hpath : keyPath? nestingLimit (key.toList ++ ']' :: rest) =
      some (([], key), ']' :: rest) :=
    keyPath?_bare hkey 78 (by simp [isBareKeyChar]) (by simp [skipSpaces])
  rw [statement?, hspaces, hpath]
  · rfl
  -- A second bracket would start a member of an array.
  · exact fun more => hkey.append_ne (by decide) _ _

theorem statement?_entry {key : String} (hkey : IsBareKey key) {fuel : Nat} {text rest : List Char}
    {value : Toml} (hvalue : value? fuel nestingLimit text = some (value, rest))
    (htext : skipSpaces text = text) :
    statement? (fuel + 1) (key.toList ++ ' ' :: '=' :: ' ' :: text) =
      some (.entry [] key value, rest) := by
  have hspaces : skipSpaces (' ' :: text) = text := htext
  have hentry : entry? (fuel + 1) nestingLimit (key.toList ++ ' ' :: '=' :: ' ' :: text) =
      some (([], key), value, rest) := by
    have hpath : keyPath? nestingLimit (key.toList ++ ' ' :: '=' :: ' ' :: text) =
        some (([], key), '=' :: ' ' :: text) :=
      keyPath?_bare hkey 78 (by simp [isBareKeyChar]) (by simp [skipSpaces])
    rw [ entry?, hpath]
    simp [hspaces, hvalue]
  rw [statement?, hentry]
  · rfl
  · exact fun more => hkey.append_ne (by decide) _ _
  · exact fun more => hkey.append_ne (by decide) _ _

/-- An empty line is passed over. -/
theorem statements?_blank (fuel : Nat) (text : List Char) :
    statements? fuel ('\n' :: text) = statements? fuel text := by
  have hskip : skipTrivia? false ('\n' :: text) = skipTrivia? false text := rfl
  cases fuel with
  | zero => rfl
  | succ fuel => rw [statements?, statements?, hskip]

/-- A line is read, and then the lines after it. -/
theorem statements?_line {fuel : Nat} {c : Char} {text rest : List Char} {statement : Statement}
    (hc : c = '[' ∨ isBareKeyChar c = true)
    (hstatement : statement? fuel (c :: text) = some (statement, '\n' :: rest)) :
    statements? (fuel + 1) (c :: text) = (statements? fuel rest).map (statement :: ·) := by
  have hskip : skipTrivia? false (c :: text) = some (c :: text) := by
    have hplain : c ≠ ' ' ∧ c ≠ '\t' ∧ c ≠ '\n' ∧ c ≠ '#' := by
      rcases hc with rfl | hc
      · decide
      · refine ⟨?_, ?_, ?_, ?_⟩ <;> rintro rfl <;> exact absurd hc (by decide)
    simp [skipTrivia?, hplain]
  have hend : isLineEnd ('\n' :: rest) = true := rfl
  rw [statements?, hskip]
  simp only [Option.bind_eq_bind, Option.bind_some, hstatement, hend, if_true, statements?_blank]
  cases statements? fuel rest <;> rfl

/-! ## Documents -/

theorem joinLineEnds_of_not_mem {text : List Char} (htext : '\r' ∉ text) :
    joinLineEnds text = text := by
  fun_induction joinLineEnds text with
  | case1 rest ih => exact absurd List.mem_cons_self htext
  | case2 c rest hmark ih => rw [ih fun hmem => htext (List.mem_cons_of_mem c hmem)]
  | case3 => rfl

theorem not_mem_writeChar (c : Char) : '\r' ∉ writeChar c := by
  unfold writeChar
  split
  next hquoted => rcases hquoted with rfl | rfl <;> decide
  next =>
    split
    next =>
      intro hmem
      simp only [List.mem_cons, Char.reduceEq, false_or] at hmem
      obtain ⟨digit, hdigit, heq⟩ := mem_hexDigits hmem
      revert digit
      decide
    next hcontrol =>
      intro hmem
      cases List.mem_singleton.mp hmem
      exact hcontrol (by decide)

/-- No carriage return is written in a string. -/
theorem not_mem_quote (s : String) : '\r' ∉ (quote s).toList := by
  simp [toList_quote, not_mem_writeChar]

/-- A header on a line of its own, and the lines after it. -/
def headerLine (key : String) (rest : List Char) : List Char :=
  '[' :: (key.toList ++ ']' :: '\n' :: rest)

/-- An entry that ends its line, and the lines after it. -/
def entryLine (key : String) (value rest : List Char) : List Char :=
  key.toList ++ ' ' :: '=' :: ' ' :: (value ++ '\n' :: rest)

/-- The statements that a text is read as, whenever the chain of calls may be so long. -/
def Reads (bound : Nat) (text : List Char) (statements : List Statement) : Prop :=
  ∀ fuel, bound ≤ fuel → statements? fuel text = some statements

namespace Reads

variable {bound : Nat} {rest : List Char} {statements : List Statement}

theorem nil : Reads 1 [] [] := by
  intro fuel hfuel
  obtain ⟨fuel, rfl⟩ := Nat.exists_eq_add_of_le' hfuel
  rfl

theorem mono (h : Reads bound rest statements) {bound' : Nat} (hle : bound ≤ bound') :
    Reads bound' rest statements :=
  fun fuel hfuel => h fuel (Nat.le_trans hle hfuel)

theorem blank (h : Reads bound rest statements) : Reads bound ('\n' :: rest) statements := by
  intro fuel hfuel
  rw [statements?_blank, h fuel hfuel]

theorem header (h : Reads bound rest statements) {key : String} (hkey : IsBareKey key) :
    Reads (bound + 1) (headerLine key rest) (.header [] key :: statements) := by
  intro fuel hfuel
  obtain ⟨fuel, rfl⟩ := Nat.exists_eq_add_of_le' hfuel
  rw [← Nat.add_assoc, headerLine, statements?_line (Or.inl rfl) (statement?_header hkey _ _),
    h _ (Nat.le_add_left bound fuel)]
  rfl

theorem entry (h : Reads (bound + 1) rest statements) {key : String} (hkey : IsBareKey key)
    {value : List Char} {read : Toml} (hstart : ∀ c ∈ value.head?, c ≠ ' ' ∧ c ≠ '\t')
    (hvalue : ∀ fuel, bound ≤ fuel →
      value? fuel nestingLimit (value ++ '\n' :: rest) = some (read, '\n' :: rest)) :
    Reads (bound + 2) (entryLine key value rest) (.entry [] key read :: statements) := by
  intro fuel hfuel
  obtain ⟨fuel, rfl⟩ := Nat.exists_eq_add_of_le' hfuel
  have hspaces : skipSpaces (value ++ '\n' :: rest) = value ++ '\n' :: rest := by
    refine skipSpaces_of_head? fun c hc => ?_
    cases value with
    | nil =>
        cases hc
        decide
    | cons d value => exact hstart c hc
  have hstatement := statement?_entry hkey (hvalue (fuel + bound) (Nat.le_add_left _ _)) hspaces
  obtain ⟨c, cs, hchars, hc⟩ := hkey.exists_cons
  rw [hchars] at hstatement
  rw [entryLine, hchars, ← Nat.add_assoc]
  refine (statements?_line (Or.inr hc) hstatement).trans ?_
  rw [h _ (by omega)]
  rfl

end Reads

/-! ## Fields -/

theorem mapM_toStr? (strings : List String) : (strings.map str).mapM toStr? = some strings := by
  induction strings with
  | nil => rfl
  | cons s strings ih =>
      rw [List.map_cons, List.mapM_cons, ih]
      rfl

theorem toUInt64?_toNat (n : UInt64) : (integer n.toNat).toUInt64? = some n := by
  have hn := n.toNat_lt
  rw [toUInt64?, if_pos ⟨by omega, by omega⟩, Int.toNat_natCast, UInt64.ofNat_toNat]

end Toml

namespace LoaderConfig

variable (config : LoaderConfig)

/-- Several sources are written on a line each. -/
theorem toList_sourcesText (hnil : config.fallbackSources ≠ [])
    (hone : ∀ source, config.fallbackSources ≠ [source]) :
    config.sourcesText.toList =
      '[' :: '\n' :: (config.fallbackSources.flatMap Toml.sourceLine ++ [']']) := by
  unfold sourcesText
  split
  next heq => exact absurd heq hnil
  next source heq => exact absurd heq (hone source)
  next =>
    have hline : Toml.sourceLine = fun source =>
        ' ' :: ' ' :: ' ' :: ' ' :: ((Toml.quote source).toList ++ [',', '\n']) := rfl
    simp [List.flatMap_map, hline]

theorem value?_sourcesText (fuel depth : Nat) (rest : List Char) :
    Toml.value? (config.fallbackSources.length + fuel + 2) (depth + 1)
        (config.sourcesText.toList ++ '\n' :: rest) =
      some (.array (config.fallbackSources.map .str), '\n' :: rest) := by
  by_cases hnil : config.fallbackSources = []
  · have htext : config.sourcesText = "[]" := by simp only [sourcesText, hnil]
    rw [htext, hnil]
    change Toml.value? _ _ ('[' :: ']' :: '\n' :: rest) = _
    rw [Toml.value?_array, Toml.items?]
    rfl
  by_cases hone : ∃ source, config.fallbackSources = [source]
  · obtain ⟨source, hsource⟩ := hone
    have htext : config.sourcesText.toList ++ '\n' :: rest =
        '[' :: ((Toml.quote source).toList ++ ']' :: '\n' :: rest) := by
      simp [sourcesText, hsource]
    rw [htext, hsource, Toml.value?_array, List.length_singleton, Nat.add_comm 1 fuel,
      Toml.items?_last]
    rfl
  · rw [toList_sourcesText config hnil fun source heq => hone ⟨source, heq⟩, List.cons_append,
      List.cons_append, List.append_assoc, Toml.value?_array, Toml.items?_blank (Or.inr rfl),
      List.singleton_append, Toml.items?_sourceLines]
    rfl

theorem length_le_length_sourcesText :
    config.fallbackSources.length ≤ config.sourcesText.toList.length := by
  by_cases hnil : config.fallbackSources = []
  · simp [hnil]
  by_cases hone : ∃ source, config.fallbackSources = [source]
  · obtain ⟨source, hsource⟩ := hone
    simp [sourcesText, hsource]
  · have hline : ∀ source, Toml.sourceLine source ≠ [] := fun _ => List.cons_ne_nil _ _
    have hlength := length_le_length_flatMap hline config.fallbackSources
    rw [toList_sourcesText config hnil fun source heq => hone ⟨source, heq⟩]
    simp only [List.length_cons, List.length_append]
    omega

theorem not_mem_sourcesText : '\r' ∉ config.sourcesText.toList := by
  by_cases hnil : config.fallbackSources = []
  · simp [sourcesText, hnil]
  by_cases hone : ∃ source, config.fallbackSources = [source]
  · obtain ⟨source, hsource⟩ := hone
    simp [sourcesText, hsource, Toml.not_mem_quote]
  · rw [toList_sourcesText config hnil fun source heq => hone ⟨source, heq⟩]
    simp [Toml.sourceLine, Toml.not_mem_quote]

theorem head?_sourcesText : config.sourcesText.toList.head? = some '[' := by
  unfold sourcesText
  split <;> simp

section

variable {bound : Nat} {rest : List Char} {statements : List Toml.Statement}

theorem reads_sourcesLine (bound : Nat)
    (h : Toml.Reads (config.fallbackSources.length + bound + 3) rest statements) :
    Toml.Reads (config.fallbackSources.length + bound + 4)
      (Toml.entryLine "fallback_sources" config.sourcesText.toList rest)
      (.entry [] "fallback_sources" (.array (config.fallbackSources.map .str)) :: statements) := by
  refine h.entry (by decide) ?_ fun fuel hfuel => ?_
  · rw [head?_sourcesText]
    intro c hc
    cases hc
    decide
  · obtain ⟨more, rfl⟩ := Nat.exists_eq_add_of_le hfuel
    have hfuel : config.fallbackSources.length + bound + 2 + more =
        config.fallbackSources.length + (bound + more) + 2 := by omega
    rw [hfuel]
    exact config.value?_sourcesText (bound + more) _ rest

theorem reads_timeoutLine (htimeout : config.sourceTimeout.toNat < 0x8000000000000000)
    (h : Toml.Reads (bound + 2) rest statements) :
    Toml.Reads (bound + 3)
      (Toml.entryLine "source_timeout_ms" (Nat.toDigits 10 config.sourceTimeout.toNat) rest)
      (.entry [] "source_timeout_ms" (.integer config.sourceTimeout.toNat) :: statements) := by
  refine h.entry (by decide) ?_ fun fuel hfuel => ?_
  · intro c hc
    have hdigit : c.isDigit = true := isDigit_of_mem_toDigits (List.mem_of_mem_head? hc)
    constructor <;> rintro rfl <;> exact absurd hdigit (by decide)
  · obtain ⟨fuel, rfl⟩ := Nat.exists_eq_add_of_le' hfuel
    exact Toml.value?_toDigits _ _ htimeout rest

/-- The line of the module, if there is one, and the lines after it. -/
def moduleLines (rest : List Char) : List Char :=
  match config.moduleUrl with
  | some url => Toml.entryLine "module_url" (Toml.quote url).toList rest
  | none => rest

def moduleStatement? : Option Toml.Statement :=
  config.moduleUrl.map fun url => .entry [] "module_url" (.str url)

theorem reads_moduleLines (h : Toml.Reads (bound + 2) rest statements) :
    Toml.Reads (bound + 3) (config.moduleLines rest)
      (config.moduleStatement?.toList ++ statements) := by
  unfold moduleLines moduleStatement?
  cases config.moduleUrl with
  | none => exact h.mono (by omega)
  | some url =>
      refine h.entry (by decide) ?_ fun fuel hfuel => ?_
      · rw [Toml.toList_quote]
        intro c hc
        cases hc
        decide
      · obtain ⟨fuel, rfl⟩ := Nat.exists_eq_add_of_le' hfuel
        exact Toml.value?_quote _ _ url _ (by simp)

end

end LoaderConfig

theorem RenderConfig.reads_autostartLine (config : RenderConfig) :
    Toml.Reads 3 (Toml.entryLine "autostart" (if config.autostart then "true" else "false").toList [])
      [.entry [] "autostart" (.boolean config.autostart)] := by
  refine (Toml.Reads.nil.mono (by decide)).entry (by decide) ?_ fun fuel hfuel => ?_
  · cases config.autostart <;> simp
  · obtain ⟨fuel, rfl⟩ := Nat.exists_eq_add_of_le' hfuel
    cases config.autostart with
    | false => exact Toml.value?_token fuel _ (by decide) _
    | true => exact Toml.value?_token fuel _ (by decide) _

namespace Config

variable (config : Config)

/-- The lines of a configuration. -/
def tomlLines : List Char :=
  Toml.headerLine "loader" (config.loader.moduleLines
    (Toml.entryLine "fallback_sources" config.loader.sourcesText.toList
      (Toml.entryLine "source_timeout_ms" (Nat.toDigits 10 config.loader.sourceTimeout.toNat)
        ('\n' :: Toml.headerLine "render"
          (Toml.entryLine "autostart" (if config.render.autostart then "true" else "false").toList
            [])))))

def tomlStatements : List Toml.Statement :=
  .header [] "loader" :: (config.loader.moduleStatement?.toList ++
    [.entry [] "fallback_sources" (.array (config.loader.fallbackSources.map .str)),
      .entry [] "source_timeout_ms" (.integer config.loader.sourceTimeout.toNat),
      .header [] "render", .entry [] "autostart" (.boolean config.render.autostart)])

theorem toList_of_toTomlText? {text : String} (htext : config.toTomlText? = some text) :
    config.loader.sourceTimeout.toNat < 0x8000000000000000 ∧ text.toList = config.tomlLines := by
  unfold toTomlText? at htext
  split at htext
  next htimeout =>
    refine ⟨htimeout, ?_⟩
    cases htext
    simp only [tomlLines, LoaderConfig.moduleLines, LoaderConfig.moduleLine, Toml.headerLine,
      Toml.entryLine]
    cases config.loader.moduleUrl <;> simp
  next => cases htext

theorem reads_tomlLines (htimeout : config.loader.sourceTimeout.toNat < 0x8000000000000000) :
    Toml.Reads (config.loader.fallbackSources.length + 8) config.tomlLines
      config.tomlStatements := by
  have hrender := (config.render.reads_autostartLine.header
    (show Toml.IsBareKey "render" by decide)).blank
  have htimeoutLine := config.loader.reads_timeoutLine htimeout hrender
  have hsources := config.loader.reads_sourcesLine 2
    (htimeoutLine.mono (Nat.le_add_left 5 _))
  exact (config.loader.reads_moduleLines hsources).header (by decide)

/-- The configuration that comes back from its lines: an absent module is not told from one that was
not given. -/
def withModule (config : Config) : Config :=
  { config with
    loader := { config.loader with
      moduleUrl := config.loader.moduleUrl.or ({} : LoaderConfig).moduleUrl } }

theorem ofTomlTable?_tomlStatements :
    (Toml.assemble? config.tomlStatements).bind ofTomlTable? = some config.withModule := by
  have hsources := Toml.mapM_toStr? config.loader.fallbackSources
  have htimeout := Toml.toUInt64?_toNat config.loader.sourceTimeout
  unfold tomlStatements LoaderConfig.moduleStatement? withModule
  cases config.loader.moduleUrl with
  | none =>
      change (ofTomlTable? [("loader", .table .defined
        [("fallback_sources", .array (config.loader.fallbackSources.map .str)),
          ("source_timeout_ms", .integer config.loader.sourceTimeout.toNat)]),
        ("render", .table .defined [("autostart", .boolean config.render.autostart)])]) = _
      simp [ofTomlTable?, LoaderConfig.ofToml?, RenderConfig.ofToml?, Toml.fields?, Toml.orDefault?,
        Toml.toList?, Toml.toBool?, List.lookup_cons, List.lookup_nil, hsources, htimeout]
  | some url =>
      change (ofTomlTable? [("loader", .table .defined
        [("module_url", .str url),
          ("fallback_sources", .array (config.loader.fallbackSources.map .str)),
          ("source_timeout_ms", .integer config.loader.sourceTimeout.toNat)]),
        ("render", .table .defined [("autostart", .boolean config.render.autostart)])]) = _
      simp [ofTomlTable?, LoaderConfig.ofToml?, RenderConfig.ofToml?, Toml.fields?, Toml.orDefault?,
        Toml.toStr?, Toml.toList?, Toml.toBool?, List.lookup_cons, List.lookup_nil, hsources, htimeout]

theorem not_mem_tomlLines : '\r' ∉ config.tomlLines := by
  have hdigits : '\r' ∉ Nat.toDigits 10 config.loader.sourceTimeout.toNat := fun hmem =>
    absurd (isDigit_of_mem_toDigits hmem) (by decide)
  have hsources := config.loader.not_mem_sourcesText
  have hautostart : '\r' ∉ (if config.render.autostart then "true" else "false").toList := by
    cases config.render.autostart <;> decide
  unfold tomlLines LoaderConfig.moduleLines
  cases config.loader.moduleUrl with
  | none => simp [Toml.headerLine, Toml.entryLine, hdigits, hsources, hautostart]
  | some url =>
      simp [Toml.headerLine, Toml.entryLine, hdigits, hsources, hautostart, Toml.not_mem_quote]

theorem length_le_length_tomlLines :
    config.loader.fallbackSources.length + 8 ≤ 3 * config.tomlLines.length + 3 := by
  have hsources := config.loader.length_le_length_sourcesText
  unfold tomlLines LoaderConfig.moduleLines
  cases config.loader.moduleUrl <;>
    simp only [Toml.headerLine, Toml.entryLine, List.length_cons, List.length_append] <;> omega

/-- What is written is read back, but for an absent module. -/
theorem ofTomlText?_of_toTomlText? {text : String} (htext : config.toTomlText? = some text) :
    ofTomlText? text = some config.withModule := by
  obtain ⟨htimeout, hlines⟩ := config.toList_of_toTomlText? htext
  have hmark : Toml.dropMark config.tomlLines = config.tomlLines := rfl
  rw [ofTomlText?, Toml.read?, hlines, hmark, Toml.joinLineEnds_of_not_mem config.not_mem_tomlLines,
    config.reads_tomlLines htimeout _ config.length_le_length_tomlLines]
  exact config.ofTomlTable?_tomlStatements

end Config

end LiveScene
