import IdpMvp.Markup.Html
import IdpMvp.Service.Logout

/-!
# The page of a logout

The front-channel page is read back by a reader that knows its template, the values in it as a browser reads them. The
URIs of the iframes survive, up to line ends and NULs. The redirect survives as a literal, but `js_escape` knows nothing
of the script element around it: the page is read back exactly if the redirect, twice over, neither ends that element
nor leaves it in a double-escaped part.
-/

namespace IdpMvp.Logout

open Markup

/-! ## Literals as characters -/

lemma toList_texts (cs ds : List Char) : (String.ofList cs ++ String.ofList ds).toList = cs ++ ds := by
  rw [String.toList_append, String.toList_ofList, String.toList_ofList]

lemma clean_literal {cs : List Char} (clean : Clean cs) : Clean (String.ofList cs).toList := by
  rwa [String.toList_ofList]

lemma clean_texts {cs ds : List Char} (clean : Clean (cs ++ ds)) :
    Clean (String.ofList cs ++ String.ofList ds).toList := by
  rwa [toList_texts]

lemma not_mem_literal {c : Char} {cs : List Char} (absent : c ∉ cs) : c ∉ (String.ofList cs).toList := by
  rwa [String.toList_ofList]

lemma not_mem_texts {c : Char} {cs ds : List Char} (absent : c ∉ cs ++ ds) :
    c ∉ (String.ofList cs ++ String.ofList ds).toList := by
  rwa [toList_texts]

/-! ## The reader -/

/-- What follows a text that is expected. -/
def expect : List Char → List Char → Option (List Char)
  | [], cs => some cs
  | p :: ps, c :: cs => if p = c then expect ps cs else none
  | _ :: _, [] => none

lemma expect_append (ps cs : List Char) : expect ps (ps ++ cs) = some cs := by
  induction ps with
  | nil => rfl
  | cons p ps ih => rw [List.cons_append, expect, if_pos rfl, ih]

lemma expect_some {ps cs rest : List Char} (found : expect ps cs = some rest) : cs = ps ++ rest := by
  induction ps generalizing cs with
  | nil => exact Option.some.inj found
  | cons p ps ih =>
    cases cs with
    | nil => cases found
    | cons c cs =>
      rw [expect] at found
      split_ifs at found with same
      rw [same, ih found, List.cons_append]

/-- An iframe after the quote that ends its URI. -/
def iframeRest : List Char := iframeClose.tail

/-- The iframes, each on a line, or an empty line. -/
def readIframes : Nat → List Char → Option (List (List Char) × List Char)
  | 0, _ => none
  | fuel + 1, cs =>
    match expect iframeOpen cs with
    | none => (expect ['\n'] cs).map fun rest => ([], rest)
    | some cs => do
      let (uri, cs) ← readAttribute cs
      let cs ← expect iframeRest cs
      let cs ← expect ['\n'] cs
      match expect iframeOpen cs with
      | none => some ([uri], cs)
      | some _ => do
        let (uris, cs) ← readIframes fuel cs
        some (uri :: uris, cs)

/-- The tags of the script element. -/
def scriptTag : List Char := "<script>".toList

def scriptEndTag : List Char := "</script>".toList

/-- The script around its two literals. -/
def scriptLead : List Char :=
  ("\nvar loaded = 0;\nvar total = document.querySelectorAll('iframe').length;\n" ++
    "function onIframeLoad() \x7b loaded++; if (loaded >= total) \x7b window.location.href = '").toList

def scriptBetween : List Char :=
  ("; \x7d \x7d\nvar frames = document.querySelectorAll('iframe');\n" ++
    "if (frames.length === 0) \x7b window.location.href = '").toList

def scriptTail : List Char := "; \x7d\nelse \x7b frames.forEach(function(f) \x7b f.onload = onIframeLoad; \x7d); \x7d\n".toList

/-- The target of the two assignments of a script. -/
def readScriptBody (cs : List Char) : Option (List Char) := do
  let cs ← expect scriptLead cs
  let (first, cs) ← readLiteral cs
  let cs ← expect scriptBetween cs
  let (second, cs) ← readLiteral cs
  if first = second ∧ cs = scriptTail then some first else none

/-- The redirect, if there is a script. -/
def readRedirect (cs : List Char) : Option (Option (List Char) × List Char) :=
  match expect scriptTag cs with
  | none => some (none, cs)
  | some cs => do
    let (body, rest) ← readScript .data [] cs
    let redirect ← readScriptBody body
    let rest ← expect ['>'] rest
    some (some redirect, rest)

/-- The URIs and the redirect of a page. -/
def readPage (cs : List Char) : Option (List (List Char) × Option (List Char)) := do
  let cs ← expect pageOpen cs
  let (uris, cs) ← readIframes (cs.length + 1) cs
  let (redirect, cs) ← readRedirect cs
  if cs = pageClose then some (uris, redirect) else none

/-! ## The escapes -/

lemma replaceChar_append (c : Char) (text : String) (cs ds : List Char) :
    replaceChar c text (cs ++ ds) = replaceChar c text cs ++ replaceChar c text ds := by
  simp [replaceChar]

lemma htmlEscape_append (cs ds : List Char) : htmlEscape (cs ++ ds) = htmlEscape cs ++ htmlEscape ds := by
  simp only [htmlEscape, replaceChar_append]

lemma replaceChar_other {c d : Char} (text : String) (other : d ≠ c) : replaceChar c text [d] = [d] := by
  simp [replaceChar, other]

lemma htmlEscape_singleton (c : Char) : htmlEscape [c] = attributeChar c := by
  unfold attributeChar
  split_ifs with amp quote lt gt
  · subst amp
    decide
  · subst quote
    decide
  · subst lt
    decide
  · subst gt
    decide
  · rw [htmlEscape, replaceChar_other _ amp, replaceChar_other _ quote, replaceChar_other _ lt, replaceChar_other _ gt]

/-- `html_escape` writes the value of an attribute. -/
lemma htmlEscape_eq (cs : List Char) : htmlEscape cs = attributeText cs := by
  induction cs with
  | nil => rfl
  | cons c cs ih =>
    have split : htmlEscape (c :: cs) = htmlEscape [c] ++ htmlEscape cs := htmlEscape_append [c] cs
    rw [split, htmlEscape_singleton, ih, attributeText, attributeText, List.flatMap_cons]

lemma jsEscape_append (cs ds : List Char) : jsEscape (cs ++ ds) = jsEscape cs ++ jsEscape ds := by
  simp only [jsEscape, replaceChar_append]

lemma jsEscape_singleton (c : Char) : jsEscape [c] = literalChar c := by
  unfold literalChar
  split_ifs with backslash quote lf cr
  · subst backslash
    decide
  · subst quote
    decide
  · subst lf
    decide
  · subst cr
    decide
  · rw [jsEscape, replaceChar_other _ backslash, replaceChar_other _ quote, replaceChar_other _ lf, replaceChar_other _ cr]

/-- `js_escape` writes a literal. -/
lemma jsEscape_eq (cs : List Char) : jsEscape cs = literalText cs := by
  induction cs with
  | nil => rfl
  | cons c cs ih =>
    have split : jsEscape (c :: cs) = jsEscape [c] ++ jsEscape cs := jsEscape_append [c] cs
    rw [split, jsEscape_singleton, ih, literalText, literalText, List.flatMap_cons]

/-! ## The iframes -/

lemma joinLines_cons (line next : List Char) (lines rest : List (List Char)) (cs : List Char)
    (more : lines = next :: rest) : joinLines (line :: lines) ++ cs = line ++ '\n' :: (joinLines lines ++ cs) := by
  subst more
  rw [joinLines]
  · simp
  · exact List.cons_ne_nil _ _

lemma joinLines_head (line : List Char) (lines : List (List Char)) : ∃ cs, joinLines (line :: lines) = line ++ cs := by
  cases lines with
  | nil => exact ⟨[], (List.append_nil _).symm⟩
  | cons next lines =>
    have joined := joinLines_cons line next (next :: lines) lines [] rfl
    rw [List.append_nil, List.append_nil] at joined
    exact ⟨_, joined⟩

lemma iframe_append (uri : String) (rest : List Char) :
    iframe uri ++ rest = iframeOpen ++ (attributeText uri.toList ++ '"' :: (iframeRest ++ rest)) := by
  have close : iframeClose = '"' :: iframeRest := by decide
  rw [iframe, htmlEscape_eq, List.append_assoc, List.append_assoc, close, List.cons_append]

/-- The iframes are read back, where what follows them is none. -/
lemma readIframes_join {uris : List String} {rest : List Char} (other : expect iframeOpen rest = none) {fuel : Nat}
    (enough : uris.length < fuel) :
    readIframes fuel (joinLines (uris.map iframe) ++ '\n' :: rest) = some (uris.map String.toList, rest) := by
  induction uris generalizing fuel with
  | nil =>
    obtain ⟨fuel, rfl⟩ := Nat.exists_eq_succ_of_ne_zero (Nat.ne_of_gt enough)
    rfl
  | cons uri uris ih =>
    obtain ⟨fuel, rfl⟩ := Nat.exists_eq_succ_of_ne_zero (Nat.ne_of_gt (Nat.zero_lt_of_lt enough))
    have enough : uris.length < fuel := by simpa using enough
    cases uris with
    | nil =>
      have line : joinLines ([uri].map iframe) ++ '\n' :: rest = iframe uri ++ '\n' :: rest := rfl
      rw [line, iframe_append, readIframes, expect_append]
      simp only [readAttribute_attributeText, Option.bind_eq_bind, Option.bind_some, expect_append]
      have ended : expect ['\n'] ('\n' :: rest) = some rest := rfl
      rw [ended, Option.bind_some, other]
      rfl
    | cons next uris =>
      have again := ih enough
      have lines : joinLines ((uri :: next :: uris).map iframe) ++ '\n' :: rest =
          iframe uri ++ '\n' :: (joinLines ((next :: uris).map iframe) ++ '\n' :: rest) :=
        joinLines_cons _ _ _ _ _ rfl
      obtain ⟨tail, starts⟩ := joinLines_head (iframe next) (uris.map iframe)
      have starts : joinLines ((next :: uris).map iframe) ++ '\n' :: rest =
          iframeOpen ++ (attributeText next.toList ++ '"' :: (iframeRest ++ (tail ++ '\n' :: rest))) := by
        rw [List.map_cons, starts, List.append_assoc, iframe_append]
      rw [lines, iframe_append, readIframes, expect_append]
      simp only [readAttribute_attributeText, Option.bind_eq_bind, Option.bind_some, expect_append]
      have ended : ∀ cs, expect ['\n'] ('\n' :: cs) = some cs := fun cs => rfl
      rw [ended, Option.bind_some, again, starts, expect_append]
      rfl

/-! ## The script -/

/-- The content of the script element. -/
def scriptBody (redirect : List Char) : List Char :=
  scriptLead ++ (literalText redirect ++ '\'' :: (scriptBetween ++ (literalText redirect ++ '\'' :: scriptTail)))

lemma redirectScript_some (uri : String) (rest : List Char) :
    redirectScript (some uri) ++ rest = scriptTag ++ (scriptBody uri.toList ++ (scriptEndTag ++ rest)) := by
  have lead : scriptOpen = scriptTag ++ scriptLead := by
    rw [show scriptOpen = _ from toList_texts _ _, show scriptTag = _ from String.toList_ofList,
      show scriptLead = _ from toList_texts _ _]
    decide +kernel
  have between : scriptMiddle = ['\''] ++ scriptBetween := by
    rw [show scriptMiddle = _ from toList_texts _ _, show scriptBetween = _ from toList_texts _ _]
    decide +kernel
  have tail : scriptClose = ['\''] ++ (scriptTail ++ scriptEndTag) := by
    rw [show scriptClose = _ from toList_texts _ _, show scriptTail = _ from String.toList_ofList,
      show scriptEndTag = _ from String.toList_ofList]
    decide +kernel
  rw [redirectScript, jsEscape_eq, lead, between, tail, scriptBody]
  simp only [List.append_assoc, List.cons_append, List.nil_append]

lemma readScriptBody_scriptBody (redirect : List Char) : readScriptBody (scriptBody redirect) = some redirect := by
  rw [readScriptBody, scriptBody, expect_append]
  simp only [Option.bind_eq_bind, Option.bind_some, readLiteral_literalText, expect_append]
  rw [if_pos ⟨trivial, trivial⟩]

/-- A redirect is read from its script only. -/
lemma readScriptBody_some {cs redirect : List Char} (read : readScriptBody cs = some redirect) :
    cs = scriptBody redirect := by
  simp only [readScriptBody, Option.bind_eq_bind, Option.bind_eq_some_iff, Prod.exists] at read
  obtain ⟨afterLead, lead, first, afterFirst, literal, afterBetween, between, second, afterSecond, literal', last⟩ := read
  split_ifs at last with same
  obtain ⟨rfl, rfl⟩ := same
  obtain rfl := Option.some.inj last
  rw [expect_some lead, readLiteral_some literal, expect_some between, readLiteral_some literal', scriptBody]

/-- A character as the reader of the script meets it: those that `js_escape` replaces start with a backslash. -/
def asScript (c : Char) : Char := if c = '\\' ∨ c = '\'' ∨ c = '\n' ∨ c = '\r' then '\\' else c

/-- The state after the redirect and a quote, twice over. -/
def afterRedirect (redirect : List Char) : ScriptState :=
  ScriptState.data.run ((redirect ++ '\'' :: (redirect ++ ['\''])).map asScript)

/-- The redirect neither ends the script element nor leaves it in a double-escaped part. -/
def ScriptSafe (redirect : List Char) : Prop :=
  afterRedirect redirect = .data ∨ afterRedirect redirect = .escaped 0

instance (redirect : List Char) : Decidable (ScriptSafe redirect) := inferInstanceAs (Decidable (_ ∨ _))

lemma inert_of {c : Char} (letter : c.toLower ∉ "script".toList)
    (mark : c ∉ ['\t', '\n', '\u000C', ' ', '/', '>', '<', '-', '!']) : ScriptState.Inert c := by
  simp only [List.mem_cons, List.not_mem_nil, or_false, not_or] at mark
  obtain ⟨tab, lf, ff, space, slash, greater, less, dash, bang⟩ := mark
  refine ⟨fun n => decide_eq_false fun there => letter (List.mem_of_getElem? there), fun n => ?_, less, dash, greater,
    slash, bang⟩
  simp [ScriptState.ends, tab, lf, ff, space, slash, greater]

lemma inert_backslash : ScriptState.Inert '\\' := inert_of (by decide) (by decide)

lemma inert_quote : ScriptState.Inert '\'' := inert_of (by decide) (by decide)

lemma run_literalChar (σ : ScriptState) (c : Char) : σ.run (literalChar c) = σ.step (asScript c) := by
  have escape : ∀ x, '<' ∉ [x] → '-' ∉ [x] → σ.run ['\\', x] = σ.step '\\' := by
    intro x less dash
    rw [ScriptState.run_cons, ScriptState.step_inert σ inert_backslash]
    exact σ.settle_settled.run_eq less dash
  by_cases special : c = '\\' ∨ c = '\'' ∨ c = '\n' ∨ c = '\r'
  · rw [asScript, if_pos special]
    rcases special with rfl | rfl | rfl | rfl
    · exact escape _ (by decide) (by decide)
    · exact escape _ (by decide) (by decide)
    · exact escape _ (by decide) (by decide)
    · exact escape _ (by decide) (by decide)
  · rw [asScript, if_neg special]
    simp only [not_or] at special
    rw [literalChar, if_neg special.1, if_neg special.2.1, if_neg special.2.2.1, if_neg special.2.2.2]
    rfl

/-- In a script a literal is read as its string is, the replaced characters apart. -/
lemma run_literalText (σ : ScriptState) (cs : List Char) : σ.run (literalText cs) = σ.run (cs.map asScript) := by
  induction cs generalizing σ with
  | nil => rfl
  | cons c cs ih =>
    rw [literalText, List.flatMap_cons, ScriptState.run_append, run_literalChar, ← literalText, ih, List.map_cons,
      ScriptState.run_cons]

/-- A literal, the quote that ends it and a text without tags and dashes. -/
lemma run_literal (σ : ScriptState) (redirect : List Char) {cs : List Char} (less : '<' ∉ cs) (dash : '-' ∉ cs)
    (more : List Char) :
    σ.run (literalText redirect ++ '\'' :: (cs ++ more)) = ((σ.run (redirect.map asScript)).settle).run more := by
  rw [ScriptState.run_append, run_literalText, ScriptState.run_cons, ScriptState.step_inert _ inert_quote,
    ScriptState.run_append, (ScriptState.settle_settled _).run_eq less dash]

/-- The state after the content of the element. -/
lemma run_scriptBody (redirect : List Char) : ScriptState.data.run (scriptBody redirect) = afterRedirect redirect := by
  have lead : ScriptState.data.run scriptLead = .data :=
    ScriptState.Settled.run_eq (.inl rfl) (not_mem_texts (by decide +kernel)) (not_mem_texts (by decide +kernel))
  have tail : scriptTail = scriptTail ++ [] := (List.append_nil _).symm
  have quote : asScript '\'' = '\\' := rfl
  have less : '<' ∉ scriptBetween ∧ '<' ∉ scriptTail :=
    ⟨not_mem_texts (by decide +kernel), not_mem_literal (by decide +kernel)⟩
  have dash : '-' ∉ scriptBetween ∧ '-' ∉ scriptTail :=
    ⟨not_mem_texts (by decide +kernel), not_mem_literal (by decide +kernel)⟩
  rw [scriptBody, ScriptState.run_append, lead, run_literal _ _ less.1 dash.1, tail, run_literal _ _ less.2 dash.2,
    afterRedirect]
  simp only [List.map_append, List.map_cons, List.map_nil, quote, ScriptState.run_append, ScriptState.run_cons,
    ScriptState.step_inert _ inert_backslash, ScriptState.run_nil]

lemma afterRedirect_settled (redirect : List Char) : (afterRedirect redirect).Settled := by
  have last : ((redirect ++ '\'' :: (redirect ++ ['\''])).map asScript) =
      (redirect ++ '\'' :: redirect).map asScript ++ ['\\'] := by
    have quote : asScript '\'' = '\\' := rfl
    simp [quote]
  rw [afterRedirect, last, ScriptState.run_append, ScriptState.run_cons, ScriptState.run_nil,
    ScriptState.step_inert _ inert_backslash]
  exact ScriptState.settle_settled _

/-- The end of the page, after the script. -/
def scriptEnd : List Char := scriptEndTag ++ pageClose

/-- A redirect that is safe leaves the element to its own end tag. -/
lemma readScript_safe {redirect : List Char} (safe : ScriptSafe redirect) :
    readScript .data [] (scriptBody redirect ++ scriptEnd) = some (scriptBody redirect, '>' :: pageClose) := by
  have goes : ScriptState.data.run (scriptBody redirect) ≠ .closed := by
    rw [run_scriptBody]
    rcases safe with state | state <;> rw [state] <;> decide
  have ends : ∀ read, readScript .data read scriptEnd = some (read.reverse, '>' :: pageClose) ∧
      readScript (.escaped 0) read scriptEnd = some (read.reverse, '>' :: pageClose) :=
    fun read => ⟨rfl, rfl⟩
  rw [readScript_append goes, run_scriptBody, List.append_nil]
  rcases safe with state | state
  · rw [state, (ends _).1, List.reverse_reverse]
  · rw [state, (ends _).2, List.reverse_reverse]

/-- No other one is read from its element. -/
lemma readScript_unsafe {redirect : List Char} (unsafe_ : ¬ ScriptSafe redirect) {content rest : List Char}
    (found : readScript .data [] (scriptBody redirect ++ scriptEnd) = some (content, rest)) :
    content.length < (scriptBody redirect).length := by
  rcases afterRedirect_settled redirect with state | state | state | state
  · exact absurd (.inl state) unsafe_
  · exact absurd (.inr state) unsafe_
  · have goes : ScriptState.data.run (scriptBody redirect ++ scriptEnd) ≠ .closed := by
      rw [ScriptState.run_append, run_scriptBody, state]
      decide +kernel
    rw [readScript_none goes] at found
    cases found
  · rw [← run_scriptBody] at state
    have shorter := readScript_short state (by decide) found
    simpa using shorter

/-- The redirect is read back from its script exactly if it is safe. -/
lemma readRedirect_iff (redirect : Option String) :
    readRedirect (redirectScript redirect ++ pageClose) = some (redirect.map String.toList, pageClose) ↔
      ∀ r, redirect = some r → ScriptSafe r.toList := by
  cases redirect with
  | none => exact iff_of_true rfl nofun
  | some r =>
    have element : redirectScript (some r) ++ pageClose = scriptTag ++ (scriptBody r.toList ++ scriptEnd) := by
      rw [redirectScript_some, scriptEnd]
    rw [element, readRedirect, expect_append]
    constructor
    · intro read r' same
      obtain rfl := Option.some.inj same
      by_contra unsafe_
      simp only [Option.bind_eq_bind, Option.bind_eq_some_iff, Prod.exists, Option.some.injEq, Prod.mk.injEq,
        Option.map_some] at read
      obtain ⟨content, rest, found, redirect, body, rest', after, rfl, -⟩ := read
      have shorter := readScript_unsafe unsafe_ found
      rw [readScriptBody_some body] at shorter
      exact Nat.lt_irrefl _ shorter
    · intro safe
      have angle : expect ['>'] ('>' :: pageClose) = some pageClose := rfl
      simp only [readScript_safe (safe r rfl), Option.bind_eq_bind, Option.bind_some, readScriptBody_scriptBody, angle,
        Option.map_some]

/-! ## The page -/

lemma expect_redirectScript (redirect : Option String) :
    expect iframeOpen (redirectScript redirect ++ pageClose) = none := by
  cases redirect with
  | none => rfl
  | some r => rw [redirectScript_some]; rfl

lemma joinLines_length (uris : List String) : uris.length ≤ (joinLines (uris.map iframe)).length := by
  induction uris with
  | nil => exact Nat.zero_le _
  | cons uri uris ih =>
    have some_text : 1 ≤ (iframe uri).length := by
      have lead : 1 ≤ iframeOpen.length := by decide
      rw [iframe, List.length_append, List.length_append]
      omega
    cases uris with
    | nil => exact some_text
    | cons next uris =>
      have joined := joinLines_cons (iframe uri) (iframe next) ((next :: uris).map iframe) (uris.map iframe) [] rfl
      rw [List.append_nil, List.append_nil] at joined
      rw [List.map_cons, joined, List.length_append]
      simp only [List.length_cons, List.map_cons] at ih ⊢
      omega

/-- A page is read back as far as its redirect is. -/
lemma readPage_build (uris : List String) (redirect : Option String) :
    readPage (buildFrontchannelHtml uris redirect) = some (uris.map String.toList, redirect.map String.toList) ↔
      ∀ r, redirect = some r → ScriptSafe r.toList := by
  rw [← readRedirect_iff]
  have page : buildFrontchannelHtml uris redirect =
      pageOpen ++ (joinLines (uris.map iframe) ++ '\n' :: (redirectScript redirect ++ pageClose)) := by
    simp [buildFrontchannelHtml]
  have enough : uris.length <
      (joinLines (uris.map iframe) ++ '\n' :: (redirectScript redirect ++ pageClose)).length + 1 := by
    have long := joinLines_length uris
    rw [List.length_append]
    omega
  rw [page, readPage, expect_append]
  simp only [Option.bind_eq_bind, Option.bind_some, readIframes_join (expect_redirectScript redirect) enough]
  constructor
  · intro read
    obtain ⟨⟨redirect', rest⟩, found, last⟩ := Option.bind_eq_some_iff.mp read
    dsimp only at last
    split_ifs at last with closes
    cases last
    rw [found, closes]
  · intro read
    rw [read, Option.bind_some]
    exact if_pos rfl

/-! ### Line ends and NULs -/

lemma expect_clean {ps cs rest : List Char} (clean : Clean cs) (found : expect ps cs = some rest) : Clean rest := by
  rw [expect_some found, clean_append] at clean
  exact clean.2

lemma readIframes_clean {fuel : Nat} {cs rest : List Char} {uris : List (List Char)} (clean : Clean cs)
    (read : readIframes fuel cs = some (uris, rest)) : (∀ uri ∈ uris, Clean uri) ∧ Clean rest := by
  induction fuel generalizing cs uris rest with
  | zero => cases read
  | succ fuel ih =>
    rw [readIframes] at read
    split at read
    · obtain ⟨left, found, same⟩ := Option.map_eq_some_iff.mp read
      cases same
      exact ⟨fun uri mem => (List.not_mem_nil mem).elim, expect_clean clean found⟩
    · rename_i inside opened
      simp only [Option.bind_eq_bind, Option.bind_eq_some_iff, Prod.exists] at read
      obtain ⟨uri, afterUri, value, afterFrame, close, afterLine, line, read⟩ := read
      obtain ⟨cleanUri, left⟩ := readAttribute_clean (expect_clean clean opened) value
      have left := expect_clean (expect_clean left close) line
      split at read
      · cases read
        refine ⟨fun u mem => ?_, left⟩
        rw [List.mem_singleton.mp mem]
        exact cleanUri
      · simp only [Option.bind_eq_some_iff, Prod.exists, Option.some.injEq, Prod.mk.injEq] at read
        obtain ⟨more, rest', again, rfl, rfl⟩ := read
        obtain ⟨others, left⟩ := ih left again
        exact ⟨List.forall_mem_cons.mpr ⟨cleanUri, others⟩, left⟩

lemma readRedirect_clean {cs rest : List Char} {redirect : Option (List Char)} (clean : Clean cs)
    (read : readRedirect cs = some (redirect, rest)) : ∀ r, redirect = some r → '\u0000' ∉ r := by
  rw [readRedirect] at read
  split at read
  · cases read
    exact nofun
  · rename_i inside opened
    simp only [Option.bind_eq_bind, Option.bind_eq_some_iff, Prod.exists, Option.some.injEq, Prod.mk.injEq] at read
    obtain ⟨content, after, found, target, body, left, -, rfl, -⟩ := read
    have content := (readScript_clean (expect_clean clean opened) clean_nil found).1
    rw [readScriptBody_some body, scriptBody, clean_append, clean_append] at content
    intro r same
    obtain rfl := Option.some.inj same
    exact clean_literalText.mp content.2.1

lemma readPage_clean {cs : List Char} {uris : List (List Char)} {redirect : Option (List Char)} (clean : Clean cs)
    (read : readPage cs = some (uris, redirect)) :
    (∀ uri ∈ uris, Clean uri) ∧ ∀ r, redirect = some r → '\u0000' ∉ r := by
  simp only [readPage, Option.bind_eq_bind, Option.bind_eq_some_iff, Prod.exists] at read
  obtain ⟨inside, opened, uris', afterFrames, frames, redirect', rest, script, last⟩ := read
  split_ifs at last with closes
  cases last
  obtain ⟨clean, left⟩ := readIframes_clean (expect_clean clean opened) frames
  exact ⟨clean, readRedirect_clean left script⟩

lemma joinLines_clean {lines : List (List Char)} (clean : ∀ line ∈ lines, Clean line) : Clean (joinLines lines) := by
  induction lines with
  | nil => exact clean_nil
  | cons line lines ih =>
    obtain ⟨head, tail⟩ := List.forall_mem_cons.mp clean
    cases lines with
    | nil => exact head
    | cons next lines =>
      have joined := joinLines_cons line next (next :: lines) lines [] rfl
      rw [List.append_nil, List.append_nil] at joined
      rw [joined]
      exact clean_append.mpr ⟨head, (ih tail).cons (by decide)⟩

/-- What is put into the page that is read as it is leaves the page so. -/
lemma build_clean {uris : List String} {redirect : Option String} (clean : ∀ uri ∈ uris, Clean uri.toList)
    (plain : ∀ r, redirect = some r → '\u0000' ∉ r.toList) : Clean (buildFrontchannelHtml uris redirect) := by
  have frame : ∀ uri ∈ uris, Clean (iframe uri) := by
    intro uri mem
    rw [iframe, htmlEscape_eq, clean_append, clean_append]
    exact ⟨⟨clean_literal (by decide +kernel), (clean uri mem).attributeText⟩, clean_literal (by decide +kernel)⟩
  have frames : Clean (joinLines (uris.map iframe)) := by
    refine joinLines_clean fun line mem => ?_
    obtain ⟨uri, there, rfl⟩ := List.mem_map.mp mem
    exact frame uri there
  have script : Clean (redirectScript redirect) := by
    cases redirect with
    | none => exact clean_nil
    | some r =>
      have literal := clean_literalText.mpr (plain r rfl)
      rw [redirectScript, jsEscape_eq]
      simp only [clean_append]
      exact ⟨⟨⟨⟨clean_texts (by decide +kernel), literal⟩, clean_texts (by decide +kernel)⟩, literal⟩,
        clean_texts (by decide +kernel)⟩
  rw [buildFrontchannelHtml]
  simp only [clean_append]
  exact ⟨⟨⟨clean_literal (by decide +kernel), frames⟩, script.cons (by decide)⟩, clean_literal (by decide +kernel)⟩

/-- The page is read back exactly if no URI has a line end that is normalised or a NUL, the redirect has no NUL and,
read as script data, the redirect neither ends the element nor leaves it in a double-escaped part. -/
theorem frontchannel_page_iff (uris : List String) (redirect : Option String) :
    readPage (preprocess (buildFrontchannelHtml uris redirect)) =
        some (uris.map String.toList, redirect.map String.toList) ↔
      (∀ uri ∈ uris, '\r' ∉ uri.toList ∧ '\u0000' ∉ uri.toList) ∧
        ∀ r, redirect = some r → '\u0000' ∉ r.toList ∧ ScriptSafe r.toList := by
  constructor
  · intro read
    obtain ⟨clean, plain⟩ := readPage_clean (preprocess_clean _) read
    have clean : ∀ uri ∈ uris, Clean uri.toList := fun uri mem => clean _ (List.mem_map_of_mem mem)
    have plain : ∀ r, redirect = some r → '\u0000' ∉ r.toList := fun r same => plain _ (by rw [same]; rfl)
    rw [(build_clean clean plain).preprocess, readPage_build] at read
    exact ⟨clean, fun r same => ⟨plain r same, read r same⟩⟩
  · rintro ⟨clean, safe⟩
    rw [(build_clean clean fun r same => (safe r same).1).preprocess, readPage_build]
    exact fun r same => (safe r same).2

/-- A redirect that ends the script element, and a script of its own after it. -/
def breakout : String := "https://rp.example/?</script><script>alert(1)</script>"

set_option maxRecDepth 8000 in
theorem breakout_ends_script :
    ¬ readPage (preprocess (buildFrontchannelHtml [] (some breakout))) = some ([], some breakout.toList) := by
  have closed : afterRedirect breakout.toList = .closed := by
    rw [show breakout.toList = _ from String.toList_ofList]
    decide +kernel
  have plain : ∀ r, some breakout = some r → '\u0000' ∉ r.toList := by
    rintro _ ⟨⟩
    exact not_mem_literal (by decide +kernel)
  rw [(build_clean (by simp) plain).preprocess]
  intro read
  rcases (readPage_build [] (some breakout)).mp read breakout rfl with safe | safe
  · cases closed.symm.trans safe
  · cases closed.symm.trans safe

end IdpMvp.Logout
