import AnnotatedSql.Proofs.Markup.Pieces

/-!
# Pieces as they are spelled

How each piece of a document is read where it stands, in front of what
follows it: sections whose end is not written inside them, tags around names,
strings between quotation marks, and text whose marks are escaped.
-/

namespace AnnotatedSql.Markup.Lexer

variable
    {rest : Text}
    {line : Nat}

/-! ## Start tags -/

/-- Space in a tag has no tokens. -/
theorem Reads.space
    {space : Text}
    (isSpace : IsSpace space)
    (line : Nat) :
    ∃ line',
      Reads ⟨space ++ rest, .startTag, line⟩ [] ⟨rest, .startTag, line'⟩ := by
  induction space generalizing line with
  | nil => exact ⟨line, .here _⟩
  | cons first space induction_hypothesis =>
      rw [IsSpace, List.forall_mem_cons] at isSpace
      by_cases isLineFeed : first = '\n'
      · rcases induction_hypothesis isSpace.2 (line + 1) with ⟨line', read⟩
        refine ⟨line', .skip ?_ read⟩
        rw [isLineFeed]
        rfl
      · rcases induction_hypothesis isSpace.2 line with ⟨line', read⟩
        refine ⟨line', .skip ?_ read⟩
        rcases isSpace.1 with rfl | rfl | rfl | rfl
        · rfl
        · rfl
        · rfl
        · exact absurd rfl isLineFeed

theorem Reads.equals :
    Reads ⟨CodePoint.scalar '=' :: rest, .startTag, line⟩ [⟨.equals, line⟩]
      ⟨rest, .startTag, line⟩ :=
  .of_token rfl

theorem Reads.tagEnd :
    Reads ⟨CodePoint.scalar '>' :: rest, .startTag, line⟩ [⟨.tagEnd, line⟩]
      ⟨rest, .content, line⟩ :=
  .of_token rfl

theorem Reads.selfClose :
    Reads ⟨("/>" : Text) ++ rest, .startTag, line⟩ [⟨.selfClose, line⟩]
      ⟨rest, .content, line⟩ :=
  .of_token rfl

theorem Reads.name
    {name : Text}
    (isName : IsName name)
    (ends : EndsName rest) :
    Reads ⟨name ++ rest, .startTag, line⟩ [⟨.name name, line⟩]
      ⟨rest, .startTag, line⟩ :=
  .of_token (advanceStartTag_of_name (nameAtStart?_append isName ends))

/-- A string between quotation marks, with those inside it escaped. -/
theorem Reads.string
    {quote : NamedCharacter}
    (isQuote : quote = .quotationMark ∨ quote = .apostrophe)
    (value : Text) :
    ∃ line',
      Reads
        ⟨CodePoint.scalar quote.character :: (escape quote value ++
          ([CodePoint.scalar quote.character] ++ rest)), .startTag, line⟩
        [⟨.string value, line⟩]
        ⟨rest, .startTag, line'⟩ := by
  have notAmpersand : quote ≠ .ampersand := by
    rcases isQuote with rfl | rfl <;> exact nofun
  have cut :=
    Text.cutAtFirst?_singleton_append (notMem_escape notAmpersand value) rest
  exists line + (escape quote value).lineFeeds
  apply of_token
  rw [advance, advanceStartTag_quote isQuote cut, decoded,
    decodeReferences_escape]

/-! ## Content -/

/-- A comment has no tokens. -/
theorem Reads.comment
    {inside : Text}
    (closed : Text.occursIn "-->" inside = false)
    (rest : Text)
    (line : Nat) :
    Reads
      ⟨("<!--" : Text) ++ (inside ++ (("-->" : Text) ++ rest)), .content, line⟩
      []
      ⟨rest, .content, line + inside.lineFeeds⟩ :=
  .of_skipped (advanceContent_of_closed .comment closed rest)

/-- A declaration has no tokens. -/
theorem Reads.declaration
    {inside : Text}
    (closed : Text.occursIn "?>" inside = false)
    (rest : Text)
    (line : Nat) :
    Reads
      ⟨("<?" : Text) ++ (inside ++ (("?>" : Text) ++ rest)), .content, line⟩
      []
      ⟨rest, .content, line + inside.lineFeeds⟩ :=
  .of_skipped (advanceContent_of_closed .declaration closed rest)

/-- A section of character data is the text inside it. -/
theorem Reads.verbatim
    {inside : Text}
    (closed : Text.occursIn "]]>" inside = false)
    (rest : Text)
    (line : Nat) :
    Reads
      ⟨("<![CDATA[" : Text) ++ (inside ++ (("]]>" : Text) ++ rest)), .content,
        line⟩
      [⟨.text inside, line⟩]
      ⟨rest, .content, line + inside.lineFeeds⟩ :=
  .of_token (advanceContent_of_closed .verbatim closed rest)

theorem Reads.closeTag
    {name space : Text}
    (isName : IsName name)
    (isSpace : IsSpace space) :
    Reads
      ⟨("</" : Text) ++ (name ++ (space ++ (CodePoint.scalar '>' :: rest))),
        .content, line⟩
      [⟨.closeTag name, line⟩]
      ⟨rest, .content, line⟩ := by
  have ends : EndsName (space ++ (CodePoint.scalar '>' :: rest)) :=
    .space_append isSpace (.of_mark (by decide) rest)
  have found : closeTagAtStart?
      (("</" : Text) ++ (name ++ (space ++ (CodePoint.scalar '>' :: rest)))) =
        some (name, rest) := by
    rw [closeTagAtStart?, Text.after?_append]
    simp only [bind, Option.bind_some]
    rw [trimStart_name_append isName, nameAtStart?_append isName ends]
    simp only [Option.bind_some]
    rw [trimStart_space_append isSpace]
    rfl
  apply of_token
  rw [advance, advanceContent_of_closeTag rfl rfl rfl found]

theorem Reads.openTag
    {name : Text}
    (isName : IsName name)
    (ends : EndsName rest) :
    Reads ⟨CodePoint.scalar '<' :: (name ++ rest), .content, line⟩
      [⟨.openTag name, line⟩]
      ⟨rest, .startTag, line⟩ :=
  .of_token (advanceContent_of_startTag (nameAtStart?_append isName ends))

theorem Reads.of_textRun
    {text run value : Text}
    {first : CodePoint}
    (found : textRun text = (first :: run, rest))
    (said : decodeReferences (first :: run) = .ok value) :
    Reads ⟨text, .content, line⟩ [⟨.text value, line⟩]
      ⟨rest, .content, line + Text.lineFeeds (first :: run)⟩ := by
  apply of_token
  rw [advance, advanceContent_of_text found, decoded, said]

/-- An escaped text in front of markup is read as the text. -/
theorem Reads.text
    {value : Text}
    (nonempty : value ≠ [])
    (ends : EndsText rest) :
    Reads ⟨escape .lessThan value ++ rest, .content, line⟩
      [⟨.text value, line⟩]
      ⟨rest, .content, line + (escape .lessThan value).lineFeeds⟩ := by
  have noMark : CodePoint.scalar '<' ∉ escape .lessThan value :=
    notMem_escape (by exact nofun) value
  have found := textRun_append noMark ends
  have said : decodeReferences (escape .lessThan value) = .ok value :=
    decodeReferences_escape value
  cases written : escape .lessThan value with
  | nil => exact absurd written (escape_ne_nil nonempty)
  | cons first run =>
      rw [written] at found said
      exact .of_textRun found said

end AnnotatedSql.Markup.Lexer
