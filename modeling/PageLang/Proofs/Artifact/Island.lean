import PageLang.Artifact
import PageLang.Proofs.Json.Lossless

/-!
# The program inside the markup

Generated markup carries the program of the page as data in a script element, and the script gets
the id of the page's element as a string literal. A script element ends at the first end tag in
it, whatever stands around the tag, so data must not hold one; yet nobody who decodes it may
notice how this was done.

> `generate_embeds_program`: the text of the element is the whole program, without any character
> of markup, and it is decoded as if it had been written plainly; and so is the literal in the
> script.
-/

namespace PageLang

/-! ## Script elements -/

/-- The text before the first occurrence of a part, or all of it. -/
def Text.upTo (part : List Char) : List Char → List Char
  | [] => []
  | c :: cs => if part.isPrefixOf (c :: cs) then [] else c :: Text.upTo part cs

theorem Text.upTo_append {c : Char} {part cs : List Char} (h : c ∉ cs) (rest : List Char) :
    Text.upTo (c :: part) (cs ++ (c :: part ++ rest)) = cs := by
  induction cs with
  | nil =>
    have hpart : (c :: part).isPrefixOf (c :: (part ++ rest)) = true :=
      List.isPrefixOf_iff_prefix.mpr ⟨rest, rfl⟩
    exact if_pos hpart
  | cons d cs ih =>
    rw [List.mem_cons, not_or] at h
    have hpart : ¬ (c :: part).isPrefixOf (d :: (cs ++ (c :: part ++ rest))) = true := by
      intro hprefix
      obtain ⟨tail, htail⟩ := List.isPrefixOf_iff_prefix.mp hprefix
      exact h.1 (List.cons.inj htail).1
    rw [List.cons_append, Text.upTo, if_neg hpart, ih h.2]

/-- The text of a script element, of which all that follows the opening tag is given. -/
def Markup.scriptText (text : String) : String :=
  String.ofList (Text.upTo "</script>".toList text.toList)

/-- A text without an opening bracket is the text of its element. -/
theorem Markup.scriptText_append {text : String} (h : '<' ∉ text.toList) (rest : String) :
    Markup.scriptText (text ++ ("</script>" ++ rest)) = text := by
  rw [Markup.scriptText, String.toList_append, String.toList_append]
  show String.ofList
      (Text.upTo ('<' :: "/script>".toList)
        (text.toList ++ ('<' :: "/script>".toList ++ rest.toList)))
    = text
  rw [Text.upTo_append h, String.ofList_toList]

namespace Artifact

open Json (Reader readText markupCharacters Draft)

/-! ## Data in a script element -/

/-- Escaping for a script respells markup characters only. -/
theorem respelling_scriptEntity : Json.Respelling scriptEntity where
  plain c hc := by
    unfold scriptEntity
    split
    · exact absurd (by decide) hc
    · exact absurd (by decide) hc
    · exact absurd (by decide) hc
    · rfl
  markup c hc := by
    simp only [markupCharacters, List.mem_cons, List.not_mem_nil, or_false] at hc
    rcases hc with rfl | rfl | rfl
    all_goals exact .inr rfl

theorem not_mem_scriptEntity {c d : Char} (hc : c ∈ markupCharacters) : c ∉ scriptEntity d := by
  by_cases hd : d ∈ markupCharacters
  · have hall : markupCharacters.all
        (fun d => markupCharacters.all fun c => !(scriptEntity d).contains c) = true := by decide
    simpa using List.all_eq_true.mp (List.all_eq_true.mp hall d hd) c hc
  · rw [respelling_scriptEntity.plain d hd, List.mem_singleton]
    rintro rfl
    exact hd hc

/-- A text that stands for data inside a script element: no character of markup is in it, and
every reader makes of it what it makes of the plain text. -/
structure Embedded (j : Json) (text : String) : Prop where
  noMarkup : ∀ c ∈ markupCharacters, c ∉ text.toList
  decodes : ∀ {α : Type} (read : Reader α), readText read text = readText read j.compact

/-- Data is embedded by its safe spelling. -/
theorem embedded_scriptSafe (j : Json) : Embedded j (scriptSafe j.compact) where
  noMarkup c hc hmem := by
    rw [scriptSafe, String.toList_ofList] at hmem
    obtain ⟨d, -, hd⟩ := List.mem_flatMap.mp hmem
    exact not_mem_scriptEntity hc hd
  decodes read := by
    rw [Json.readText_compact, scriptSafe, Json.compact, String.toList_ofList]
    exact Json.readText_respelled respelling_scriptEntity Json.Spacing.blank_none read j

/-- Data that can be read back is what its text inside a script element is parsed as. -/
theorem Embedded.parse_eq {j : Json} {text : String} (h : Embedded j text) (hj : j.Readable) :
    Json.parse text = .ok j :=
  (h.decodes _).trans hj.parse_eq

/-- A string literal inside a script element is read as the string, and nothing of what follows
it. -/
theorem draft_scriptSafe_str (s : String) (rest : List Char) :
    Json.draft ((scriptSafe (Json.compact (.str s))).toList ++ rest) = (.str s, some rest) := by
  have htext : (scriptSafe (Json.compact (.str s))).toList
      = '"' :: ((s.toList.flatMap Json.escapeChar).flatMap scriptEntity ++ ['"']) := by
    rw [scriptSafe, String.toList_ofList, Json.compact, String.toList_ofList, Json.write,
      Json.flatMap_quote respelling_scriptEntity]
    rfl
  rw [htext, List.cons_append, List.append_assoc, List.singleton_append, Json.draft,
    Json.draftValue_quote, Json.scanString_written respelling_scriptEntity]
  show (Draft.str (String.ofList s.toList), some rest) = _
  rw [String.ofList_toList]

/-! ## The script -/

/-- The lines of the script after the one with the literal. -/
def fixedLines : List String :=
  Browser.setup ++ Browser.values ++ Browser.evaluation ++ Browser.parsing ++ Browser.rendering
    ++ Browser.dispatch

/-- The script before the literal. -/
def scriptHead : String := "(function () \x7b\n  \"use strict\";\n\n  var ROOT_ID = "

/-- The script after the literal. -/
def scriptTail : String := ";\n" ++ String.join (fixedLines.map (· ++ "\n"))

theorem script_eq (literal : String) :
    Browser.script literal = scriptHead ++ literal ++ scriptTail := by
  have hlines : Browser.scriptLines literal
      = ["(function () \x7b", "  \"use strict\";", "", Browser.rootLine literal] ++ fixedLines := by
    simp only [Browser.scriptLines, fixedLines, List.append_assoc]
  have hroot : Browser.rootLine literal = "  var ROOT_ID = " ++ (literal ++ ";") :=
    String.append_assoc ..
  have hhead :
      scriptHead = "(function () \x7b" ++ "\n" ++ ("  \"use strict\";" ++ "\n" ++ ("" ++ "\n"
      ++ "  var ROOT_ID = ")) := rfl
  have hsemicolon : ";\n" = ";" ++ "\n" := rfl
  rw [Browser.script, hlines, scriptTail, hhead, hsemicolon]
  simp only [List.cons_append, List.nil_append, List.map_cons, String.join_cons, hroot,
    String.append_assoc]

/-! ## The generated markup -/

/-- The tag that opens the element of the program. -/
def programTag (o : GenerateOptions) : String :=
  "<script type=\"application/json\" id=\"" ++ Markup.escape o.rootId ++ "-program\">"

/-- The literal that names the element of the page in the script. -/
def rootLiteral (o : GenerateOptions) : String := scriptSafe (Json.compact (.str o.rootId))

/-- What follows the program in the markup. -/
def afterProgram (o : GenerateOptions) : String :=
  o.layout.lineEnd ++ "<script>\n" ++ (scriptHead ++ rootLiteral o ++ scriptTail) ++ "</script>"
    ++ o.layout.lineEnd

/-- Behind the data its tag is closed. -/
theorem runtime_eq {o : GenerateOptions} (h : o.includeRuntime = true) (j : Json) :
    runtime o j = programTag o ++ (scriptSafe j.compact ++ ("</script>" ++ afterProgram o)) := by
  show (if o.includeRuntime = true then programTag o ++ scriptSafe j.compact ++ "</script>"
      ++ o.layout.lineEnd
    ++ "<script>\n" ++ Browser.script (rootLiteral o) ++ "</script>" ++ o.layout.lineEnd else "")
      = programTag o ++ (scriptSafe j.compact ++ ("</script>" ++ (o.layout.lineEnd ++ "<script>\n"
        ++ (scriptHead ++ rootLiteral o ++ scriptTail) ++ "</script>" ++ o.layout.lineEnd)))
  rw [if_pos h, script_eq]
  simp only [String.append_assoc]

/-- The markup of a page with its program, taken apart at the element of the program. -/
theorem markup_generate {o : GenerateOptions} (h : o.includeRuntime = true) (p : Page) :
    (generate o p).markup = heading o p.title?
      ++ root o ((generate o p).template.render (State.initial p.state))
      ++ programTag o ++ (scriptSafe
        (island p.state (generate o p).template (generate o p).actions).compact
          ++ ("</script>" ++ afterProgram o)) := by
  show heading o p.title? ++ root o ((generate o p).template.render (State.initial p.state))
    ++ runtime o (island p.state (generate o p).template (generate o p).actions) = _
  rw [runtime_eq h]
  exact String.append_assoc.symm

/-- **The program is embedded safely and faithfully.** The program of a page is an object of three
fields: its state table, its template and its actions. What follows the opening tag up to the
first end tag is the whole program; no character of markup is in it, and it is decoded as the
plain text is. The literal that names the element of the page is embedded in the script in the
same way. -/
theorem generate_embeds_program (o : GenerateOptions) (p : Page) (h : o.includeRuntime = true) :
    let program : Json := .obj [
      ("state", p.state.toJson Literal.toJson),
      ("template", (generate o p).template.toJson),
      ("actions", (generate o p).actions.toJson)]
    ∃ tail, (generate o p).markup
        = heading o p.title? ++ root o ((generate o p).template.render (State.initial p.state))
          ++ programTag o ++ tail
      ∧ Markup.scriptText tail = scriptSafe program.compact
      ∧ Embedded program (Markup.scriptText tail)
      ∧ (program.Readable → Json.parse (Markup.scriptText tail) = .ok program)
      ∧ tail = Markup.scriptText tail ++ ("</script>" ++ (o.layout.lineEnd ++ "<script>\n"
          ++ (scriptHead ++ rootLiteral o ++ scriptTail) ++ "</script>" ++ o.layout.lineEnd))
      ∧ Embedded (.str o.rootId) (rootLiteral o)
      ∧ Json.parse (rootLiteral o) = .ok (.str o.rootId)
      ∧ Json.draft ((rootLiteral o).toList ++ scriptTail.toList) = (.str o.rootId,
          some scriptTail.toList) := by
  intro program
  have hembedded := embedded_scriptSafe program
  have htext : Markup.scriptText (scriptSafe program.compact ++ ("</script>" ++ afterProgram o))
      = scriptSafe program.compact :=
    Markup.scriptText_append (hembedded.noMarkup '<' (by decide)) _
  refine ⟨_, markup_generate h p, htext, ?_, ?_, ?_, ?_, ?_, ?_⟩
  · exact htext.symm ▸ hembedded
  · exact htext.symm ▸ hembedded.parse_eq
  · exact congrArg (· ++ ("</script>" ++ afterProgram o)) htext.symm
  · exact embedded_scriptSafe _
  · exact (embedded_scriptSafe (.str o.rootId)).parse_eq
      ⟨Nat.zero_le _, by simp [Json.scalars, Json.Survives]⟩
  · exact draft_scriptSafe_str o.rootId _

/-- A page whose data would close the element if it were written plainly. -/
def closingPage : Page where
  root := {
    kind := "Page"
    children := [
      { kind := "Text", content := "\x7bbad\x7d & </script>", line := 2 },
      { kind := "Button", properties := .ofList [("action", "bad = \"<!--\\\\\"")], content :=
        "\\u003c", line := 3 }]
    line := 1 }
  state := .ofList [("bad", .text "</script><b>"), ("n", .number 0.5)]

/-- Options with an id that would close the script. -/
def closingOptions : GenerateOptions := { rootId := "a\"</script>\\u0026&" }

/-- The element of the program is read as an object of three fields: the state of `closingPage`,
the template that shows `bad` between two texts, and the one action of the button. -/
theorem generate_embeds_program_closingPage :
    closingOptions.includeRuntime = true
      ∧ (generate closingOptions closingPage).template.toJson.compact
          = "\x7b\"segments\":[\x7b\"type\":\"Static\",\"html\":\"<p class=\\\"qcl-text\\\">\"\x7d,"
            ++ "\x7b\"type\":\"Text\",\"name\":\"bad\"\x7d,\x7b\"type\":\"Static\",\"html\":"
            ++ "\" &amp; &lt;/script&gt;</p>\\n<button class=\\\"qcl-button\\\" type=\\\"button\\\" "
            ++ "data-qcl-action=\\\"bad = &quot;&lt;!--\\\\\\\\&quot;\\\">\\\\u003c</button>\\n\"\x7d]\x7d"
      ∧ (generate closingOptions closingPage).actions.toJson.compact
          = "\x7b\"bad = \\\"<!--\\\\\\\\\\\"\":\x7b\"program\":\x7b\"source\":\"bad = \\\"<!--\\\\\\\\\\\"\","
            ++ "\"statements\":[\x7b\"type\":\"Assign\",\"target\":\"bad\",\"value\":"
            ++ "\x7b\"type\":\"String\",\"value\":\"<!--\\\\\"\x7d\x7d]\x7d\x7d\x7d"
      ∧ ∃ tail, (generate closingOptions closingPage).markup
          = heading closingOptions closingPage.title?
            ++ root closingOptions
              ((generate closingOptions closingPage).template.render
                (State.initial closingPage.state))
            ++ programTag closingOptions ++ tail
        ∧ Json.parse (Markup.scriptText tail) = .ok (.obj [
            ("state", .obj [("bad", .str "</script><b>"), ("n", .float 0.5)]),
            ("template", (generate closingOptions closingPage).template.toJson),
            ("actions", (generate closingOptions closingPage).actions.toJson)]) := by
  obtain ⟨tail, hmarkup, -, -, hparse, -⟩ := generate_embeds_program closingOptions closingPage rfl
  exact ⟨rfl, by decide +kernel, by decide +kernel, tail, hmarkup, hparse (by decide +kernel)⟩

end Artifact

end PageLang
