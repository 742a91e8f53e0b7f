import LoxScan.Proofs.Meaning
import LoxScan.Proofs.Report

/-! Tokens read back from their echo. No character is escaped there, and a string may hold line
feeds and anything that looks like other tokens. Still the echo of a text tells its tokens: the name
of a kind ends at the first blank and says what follows, a string ends at its second quote, since
there is none inside, and every other lexeme ends at the first blank, since it holds none. For the
same reason nothing of a lexeme is lost when the blanks at the end of a line are left out. -/

namespace LoxScan

open Text Segment Grammar

/-! ### Blanks -/

theorem isWordPart_eq_false_of_isBlank {c : Char} (h : isBlank c = true) :
    isWordPart c = false := by
  obtain ⟨p, hp, low, high⟩ := Ranges.exists_mem_of_contains h
  have apart : ∀ p ∈ blanks.table, ∀ n ∈ List.range' p.1 (p.2 + 1 - p.1),
      (letters.contains n || decimalDigits.contains n) = false := by decide +kernel
  refine apart p hp c.toNat (List.mem_range'_1.mpr ⟨low, ?_⟩)
  omega

/-- No blank is among `cs`, as in words, numbers and symbols. -/
def Solid (cs : List Char) : Prop := ∀ x ∈ cs, (!isBlank x) = true

theorem solid_of_isWordPart {cs : List Char} (h : ∀ x ∈ cs, isWordPart x = true) : Solid cs := by
  intro x hx
  by_contra blank
  have part := isWordPart_eq_false_of_isBlank (c := x) (by simpa using blank)
  exact Bool.false_ne_true (part.symm.trans (h x hx))

theorem Numeral.solid {cs : List Char} (h : Numeral cs) : Solid cs :=
  h.forall_mem (by decide +kernel)

theorem trimEnd_append {cs : List Char} (solid : Solid cs) (ne : cs ≠ []) (before : List Char) :
    trimEnd (before ++ cs) = before ++ cs := by
  obtain ⟨init, c, rfl⟩ := (List.eq_nil_or_concat cs).resolve_left ne
  have last : isBlank c = false := by simpa using solid c (by simp)
  simp [trimEnd, dropWhileEnd, last]

/-- Two runs of characters that pass `p` are the same if each ends at the first character that does
not, in the same text. -/
theorem run_unique {p : Char → Bool} {a b r s : List Char} {x y : Char}
    (ha : ∀ c ∈ a, p c = true) (hb : ∀ c ∈ b, p c = true) (hx : p x = false) (hy : p y = false)
    (same : a ++ x :: r = b ++ y :: s) : a = b ∧ x :: r = y :: s := by
  have stop {z : Char} (hz : p z = false) (t : List Char) : ∀ c ∈ (z :: t).head?, p c = false := by
    simpa using hz
  constructor
  · rw [← takeWhile_run ha (stop hx r), same, takeWhile_run hb (stop hy s)]
  · rw [← dropWhile_run ha (stop hx r), same, dropWhile_run hb (stop hy s)]

/-! ### Names of kinds -/

theorem Kind.ofName?_name (kind : Kind) : Kind.ofName? kind.name = some kind := by
  cases kind with
  | keyword word => cases word <;> decide
  | _ => decide

theorem Kind.name_injective {k l : Kind} (h : k.name = l.name) : k = l :=
  Option.some.inj (by rw [← k.ofName?_name, h, l.ofName?_name])

theorem Kind.solid_name (kind : Kind) : Solid kind.name.toList := by
  have all : Kind.all.all (fun k => k.name.toList.all (!isBlank ·)) = true := by decide +kernel
  have listed := List.mem_of_find?_eq_some kind.ofName?_name
  exact List.all_eq_true.mp (List.all_eq_true.mp all kind listed)

/-! ### Tokens as they are echoed -/

/-- What the tokens of a text look like. -/
inductive Echoed : Token → Prop
  | bare {kind lexeme line} (plain : kind ∉ [Kind.string, .number, .endOfText])
      (solid : Solid lexeme.toList) (ne : lexeme ≠ "") : Echoed ⟨kind, lexeme, none, line⟩
  | number {lexeme line} (solid : Solid lexeme.toList) :
      Echoed ⟨.number, lexeme,
        some (.number ((Decimal.ofNumeral lexeme.toList).toDouble false)), line⟩
  | string {body line} (inside : '"' ∉ body) :
      Echoed ⟨.string, String.ofList ('"' :: (body ++ ['"'])),
        some (.text (String.ofList body)), line⟩
  | ending {line} : Echoed (Scan.endToken line)

theorem echoed_symbol {c : Char} {tail : List Char} {kind : Kind}
    (spelled : (c :: tail, kind) ∈ spellings) (line : Int) :
    Echoed ⟨kind, String.ofList (c :: tail), none, line⟩ := by
  have plain : ∀ p ∈ spellings, p.2 ∉ [Kind.string, .number, .endOfText] := by decide
  have solid : spellings.all (fun p => p.1.all (!isBlank ·)) = true := by decide +kernel
  refine .bare (plain _ spelled) ?_ (by simp)
  rw [String.toList_ofList]
  exact List.all_eq_true.mp (List.all_eq_true.mp solid _ spelled)

theorem echoed_number {s : Segment} (h : Numeral s.text) (line : Int) :
    Echoed ⟨.number, String.ofList s.text,
      some (.number ((Decimal.ofNumeral s.text).toDouble false)), line⟩ := by
  have number := @Echoed.number (String.ofList s.text) line
  rw [String.toList_ofList] at number
  exact number h.solid

theorem echoed_word {c : Char} {run : List Char} (letter : isLetter c = true)
    (inside : ∀ x ∈ run, isWordPart x = true) (line : Int) :
    Echoed ⟨Kind.ofWord (String.ofList (c :: run)), String.ofList (c :: run), none, line⟩ := by
  have plain : Kind.ofWord (String.ofList (c :: run)) ∉ [Kind.string, .number, .endOfText] := by
    unfold Kind.ofWord
    split <;> simp
  refine .bare plain ?_ (by simp)
  rw [String.toList_ofList]
  refine solid_of_isWordPart (List.forall_mem_cons.mpr ⟨?_, inside⟩)
  rw [isWordPart, letter, Bool.true_or]

theorem echoed_of_token? {s : Segment} {rest : List Char} (h : Leads s rest) {line : Int}
    {t : Token} (made : s.token? line = some t) : Echoed t := by
  cases h with
  | mark kinds => cases made; exact echoed_symbol (mem_spellings_of_ofMark? kinds) line
  | paired kinds => cases made; exact echoed_symbol (mem_spellings_of_ofPaired? kinds).1 line
  | single kinds => cases made; exact echoed_symbol (mem_spellings_of_ofPaired? kinds).2 line
  | slash => cases made; exact echoed_symbol (by decide) line
  | string inside =>
    cases made
    rw [List.dropLast_concat]
    exact .string inside
  | whole digit inside stop point =>
    cases made
    exact echoed_number (.of_leads (.whole digit inside stop point) rfl) line
  | fraction digit inside digit' inside' stop =>
    cases made
    exact echoed_number (.of_leads (.fraction digit inside digit' inside' stop) rfl) line
  | word letter inside =>
    cases made
    exact echoed_word letter inside line
  | _ => cases made

theorem echoed_of_mem {source filename : String} {t : Token}
    (h : t ∈ (Scan.ofText source filename).tokens) : Echoed t := by
  rw [Scan.tokens_ofText] at h
  rcases List.mem_append.mp h with h | h
  · obtain ⟨q, hq, made⟩ := List.mem_filterMap.mp h
    obtain ⟨rest, leads⟩ := (cut_split source.toList).leads_of_mem (mem_of_mem_located hq)
    exact echoed_of_token? leads made
  · rw [List.mem_singleton.mp h]
    exact .ending

/-- Nothing of a lexeme is lost in the echo of a token without a value. -/
theorem Echoed.write_eq {t : Token} (h : Echoed t) (bare : t.literal = none) :
    t.write = if t.lexeme = "" then t.kind.name else t.kind.name ++ " " ++ t.lexeme := by
  cases h with
  | number | string => cases bare
  | ending =>
    have trimmed : String.ofList (trimEnd "EOF ".toList) = "EOF" := by decide +kernel
    exact trimmed
  | bare plain solid ne =>
    rw [if_neg ne, Token.write]
    dsimp only
    rw [String.toList_append, trimEnd_append solid (by simpa using ne), ← String.toList_append,
      String.ofList_toList]

/-! ### Reading an echo -/

/-- The line of a token in an echo. -/
def Token.echoed (t : Token) : List Char := t.write.toList ++ ['\n']

theorem toList_echo (tokens : List Token) :
    (Session.echo tokens).toList = tokens.flatMap Token.echoed := by
  have line (t : Token) : (t.write ++ "\n").toList = t.echoed := by simp [Token.echoed]
  simp only [Session.echo, String.toList_join, List.flatMap_map, line]

theorem Echoed.bare_line {t : Token} (h : Echoed t) (bare : t.literal = none) (ne : t.lexeme ≠ "") :
    t.echoed = t.kind.name.toList ++ ' ' :: (t.lexeme.toList ++ ['\n']) := by
  rw [Token.echoed, h.write_eq bare, if_neg ne]
  simp

theorem value_line {t : Token} {value : Literal} (h : t.literal = some value) :
    t.echoed = t.kind.name.toList ++
      ' ' :: (t.lexeme.toList ++ ' ' :: (value.write.toList ++ ['\n'])) := by
  simp [Token.echoed, Token.write, h]

/-- The line of a token begins with the name of its kind and a blank. -/
theorem Echoed.name_line {t : Token} (h : Echoed t) :
    ∃ x more, t.echoed = t.kind.name.toList ++ x :: more ∧ isBlank x = true := by
  have space : isBlank ' ' = true := by decide
  cases h with
  | bare plain solid ne => exact ⟨_, _, (Echoed.bare plain solid ne).bare_line rfl ne, space⟩
  | number => exact ⟨_, _, value_line rfl, space⟩
  | string => exact ⟨_, _, value_line rfl, space⟩
  | @ending line =>
    refine ⟨'\n', [], ?_, by decide⟩
    rw [Token.echoed, Echoed.ending.write_eq rfl]
    rfl

theorem Echoed.kind_eq {t u : Token} (ht : Echoed t) (hu : Echoed u) {r s : List Char}
    (same : t.echoed ++ r = u.echoed ++ s) : t.kind = u.kind := by
  obtain ⟨x, more, ht, hx⟩ := ht.name_line
  obtain ⟨y, more', hu, hy⟩ := hu.name_line
  rw [ht, hu, List.append_assoc, List.append_assoc] at same
  have names := run_unique t.kind.solid_name u.kind.solid_name (by simp [hx]) (by simp [hy]) same
  exact Kind.name_injective (String.toList_inj.mp names.1)

section Next

variable {lexeme lexeme' : String} {line line' : Int} {r s : List Char}

theorem next_bare {kind : Kind} (plain : kind ∉ [Kind.string, .number, .endOfText])
    (solid : Solid lexeme.toList) (solid' : Solid lexeme'.toList) (ne : lexeme ≠ "")
    (ne' : lexeme' ≠ "")
    (same : Token.echoed ⟨kind, lexeme, none, line⟩ ++ r =
      Token.echoed ⟨kind, lexeme', none, line'⟩ ++ s) : lexeme = lexeme' ∧ r = s := by
  have feed : (!isBlank '\n') = false := by decide
  rw [(Echoed.bare plain solid ne).bare_line rfl ne,
    (Echoed.bare plain solid' ne').bare_line rfl ne'] at same
  simp only [List.append_assoc, List.append_cancel_left_eq, List.cons_append, List.cons.injEq,
    true_and, List.nil_append] at same
  obtain ⟨lexemes, rest⟩ := run_unique solid solid' feed feed same
  exact ⟨String.toList_inj.mp lexemes, (List.cons.inj rest).2⟩

theorem next_number (value : String → Literal) (solid : Solid lexeme.toList)
    (solid' : Solid lexeme'.toList)
    (same : Token.echoed ⟨.number, lexeme, some (value lexeme), line⟩ ++ r =
      Token.echoed ⟨.number, lexeme', some (value lexeme'), line'⟩ ++ s) :
    lexeme = lexeme' ∧ r = s := by
  have space : (!isBlank ' ') = false := by decide
  rw [value_line rfl, value_line rfl] at same
  simp only [List.append_assoc, List.append_cancel_left_eq, List.cons_append, List.cons.injEq,
    true_and, List.nil_append] at same
  obtain ⟨lexemes, rest⟩ := run_unique solid solid' space space same
  obtain rfl := String.toList_inj.mp lexemes
  simpa using rest

theorem next_string {body body' : List Char} (inside : '"' ∉ body) (inside' : '"' ∉ body')
    (same : Token.echoed ⟨.string, String.ofList ('"' :: (body ++ ['"'])),
        some (.text (String.ofList body)), line⟩ ++ r =
      Token.echoed ⟨.string, String.ofList ('"' :: (body' ++ ['"'])),
        some (.text (String.ofList body')), line'⟩ ++ s) : body = body' ∧ r = s := by
  have quote : ('"' != '"') = false := by decide
  rw [value_line rfl, value_line rfl] at same
  simp only [String.toList_ofList, Literal.write, List.append_assoc, List.append_cancel_left_eq,
    List.cons_append, List.cons.injEq, true_and, List.nil_append] at same
  obtain ⟨bodies, rest⟩ := run_unique (forall_bne inside) (forall_bne inside') quote quote same
  subst bodies
  simpa using rest

end Next

/-- The line of a token tells the token, and ends where the next one begins. -/
theorem Echoed.next {t u : Token} (ht : Echoed t) (hu : Echoed u) {r s : List Char}
    (same : t.echoed ++ r = u.echoed ++ s) : t.content = u.content ∧ r = s := by
  have kinds := ht.kind_eq hu same
  cases ht <;> cases hu
  case bare.bare kind lexeme line plain solid ne kind' lexeme' line' plain' solid' ne' =>
    obtain rfl : kind = kind' := kinds
    obtain ⟨rfl, rest⟩ := next_bare plain solid solid' ne ne' same
    exact ⟨rfl, rest⟩
  case number.number solid _ _ solid' =>
    obtain ⟨rfl, rest⟩ := next_number
      (fun l => .number ((Decimal.ofNumeral l.toList).toDouble false)) solid solid' same
    exact ⟨rfl, rest⟩
  case string.string inside _ _ inside' =>
    obtain ⟨rfl, rest⟩ := next_string inside inside' same
    exact ⟨rfl, rest⟩
  case ending.ending => exact ⟨rfl, List.append_cancel_left same⟩
  -- tokens of other shapes are of other kinds
  all_goals simp_all [Scan.endToken]

theorem contents_of_echo {ts us : List Token} (ht : ∀ t ∈ ts, Echoed t) (hu : ∀ u ∈ us, Echoed u)
    (same : ts.flatMap Token.echoed = us.flatMap Token.echoed) :
    ts.map Token.content = us.map Token.content := by
  have ne (t : Token) (r : List Char) : t.echoed ++ r ≠ [] := by simp [Token.echoed]
  induction ts generalizing us with
  | nil =>
    cases us with
    | nil => rfl
    | cons u us => exact absurd same.symm (ne u _)
  | cons t ts ih =>
    cases us with
    | nil => exact absurd same (ne t _)
    | cons u us =>
      rw [List.forall_mem_cons] at ht hu
      obtain ⟨first, rest⟩ := ht.1.next hu.1 same
      rw [List.map_cons, List.map_cons, first, ih ht.2 hu.2 rest]

/-- The echo of a text tells its tokens: texts that are echoed alike have as many tokens, of the
same kinds, lexemes and values. Nothing of a lexeme is lost in the echo of a token without a
value. -/
theorem echo_decodable :
    (∀ (a b filename filename' : String) (settings settings' : Settings) (tally tally' : Tally),
      settings.echoTokens = true → settings'.echoTokens = true →
      (Session.run settings filename a tally).2.out =
        (Session.run settings' filename' b tally').2.out →
      (Scan.ofText a filename).tokens.map Token.content =
        (Scan.ofText b filename').tokens.map Token.content) ∧
      ∀ source filename, ∀ t ∈ (Scan.ofText source filename).tokens, t.literal = none →
        t.write = if t.lexeme = "" then t.kind.name else t.kind.name ++ " " ++ t.lexeme := by
  constructor
  · intro a b filename filename' settings settings' tally tally' echoes echoes' same
    rw [Session.run_eq, Session.run_eq, Session.shown, Session.shown, if_pos echoes,
      if_pos echoes'] at same
    have lines := congrArg String.toList same
    rw [toList_echo, toList_echo] at lines
    exact contents_of_echo (fun _ => echoed_of_mem) (fun _ => echoed_of_mem) lines
  · exact fun source filename t ht => (echoed_of_mem ht).write_eq

/-- A string that looks like the end of the text, with other blanks and comments around it. -/
theorem echo_decodable_false_end :
    (Session.run Settings.default "f" "\"x\"\"\nEOF\" y" .zero).2.out =
        (Session.run Settings.default "g" "\"x\" // z\n\"\nEOF\"\ty" .zero).2.out ∧
      (Scan.ofText "\"x\"\"\nEOF\" y" "f").tokens.map Token.content =
        (Scan.ofText "\"x\" // z\n\"\nEOF\"\ty" "g").tokens.map Token.content ∧
      (⟨.identifier, "y", none, 2⟩ : Token) ∈ (Scan.ofText "\"x\"\"\nEOF\" y" "f").tokens ∧
      Token.write ⟨.identifier, "y", none, 2⟩ = "IDENTIFIER" ++ " " ++ "y" := by
  have same : (Session.run Settings.default "f" "\"x\"\"\nEOF\" y" .zero).2.out =
      (Session.run Settings.default "g" "\"x\" // z\n\"\nEOF\"\ty" .zero).2.out := by
    decide +kernel
  have mem : (⟨.identifier, "y", none, 2⟩ : Token) ∈
      (Scan.ofText "\"x\"\"\nEOF\" y" "f").tokens := by decide +kernel
  exact ⟨same, echo_decodable.1 _ _ _ _ _ _ _ _ rfl rfl same, mem,
    echo_decodable.2 _ _ _ mem rfl⟩

end LoxScan
