import GasAdvisor.Proofs.Contract.Declaration
import GasAdvisor.Proofs.Contract.PrintedHeader

/-!
# Reading undoes printing

A printed contract is read back. Its name is that of the declaration at its front
(`ContractForm.exists_codeChars_text`), and the search for functions, followed through the text stretch by
stretch, finds a function where one was printed and nothing between two of them:

* the line of the declaration holds no header, even if the name ends in `function`
  (`ContractForm.findFrom_headText`);
* the header of a function is found whole, and its body, which does not mention `function`, is passed
  over (`FunctionForm.findFrom_text`);
* so the sites of the contract are those of its functions in order (`ContractForm.all_text`).

The lines of the functions follow from the lengths of those before them
(`FunctionForm.map_function_sitesFrom`).
-/

namespace GasAdvisor

open Text

/-! ## Where no header starts -/

/-- What the search for functions finds at a place. -/
def Site.find (s : List Char) : Option ((Header × Option (List Char)) × Nat) :=
  (Header.read? s).map fun (header, rest) => ((header, block? ('{' :: rest)), header.text.length)

theorem Site.find_eq_none {s : List Char} (h : Header.read? s = none) : Site.find s = none := by
  rw [Site.find, h]
  rfl

namespace Header

theorem read?_eq_none_of_not_prefix {s : List Char} (h : ¬ keyword <+: s) : read? s = none := by
  rw [read?, if_neg (by simpa using h)]

/-- A header starts with the first letter of its keyword. -/
theorem read?_cons_eq_none {c : Char} (hc : c ≠ 'f') (s : List Char) : read? (c :: s) = none := by
  refine read?_eq_none_of_not_prefix fun h => hc ?_
  have hkeyword : keyword = 'f' :: "unction".toList := by decide
  rw [hkeyword] at h
  exact (List.cons_prefix_cons.1 h).1.symm

/-- What follows the keyword and white space, if not a word, is no header. -/
theorem read?_keyword_brace {gap : List Char} (hgap : ∀ c ∈ gap, isBlank c = true)
    (s : List Char) : read? (keyword ++ (gap ++ '{' :: s)) = none := by
  have hblank : Stops isBlank ('{' :: s) := stops_cons.2 (by decide)
  have hword : isWord '{' = false := by decide
  have hk : keyword.isPrefixOf (keyword ++ (gap ++ '{' :: s)) = true :=
    List.isPrefixOf_iff_prefix.2 (List.prefix_append _ _)
  simp [read?, hk, takeWhile_append_of_stop hgap hblank, dropWhile_append_of_stop hgap hblank,
    hword]

/-- No header starts where the keyword goes on as a longer word. -/
theorem read?_keyword_word {c : Char} (hc : isWord c = true) (s : List Char) :
    read? (keyword ++ c :: s) = none := by
  have hblank : isBlank c = false := isBlank_eq_false_of_isWord hc
  have hk : keyword.isPrefixOf (keyword ++ c :: s) = true :=
    List.isPrefixOf_iff_prefix.2 (List.prefix_append _ _)
  simp [read?, hk, hblank]

end Header

/-- A word stands before a character that it does not hold. -/
theorem prefix_of_prefix_append_cons {w a s : List Char} {c : Char} (hc : c ∉ w)
    (h : w <+: a ++ c :: s) : w <+: a := by
  induction a generalizing w with
  | nil =>
    cases w with
    | nil => exact List.nil_prefix
    | cons d w =>
      obtain ⟨rfl, -⟩ := List.cons_prefix_cons.1 h
      exact absurd List.mem_cons_self hc
  | cons e a ih =>
    cases w with
    | nil => exact List.nil_prefix
    | cons d w =>
      obtain ⟨rfl, hrest⟩ := List.cons_prefix_cons.1 h
      exact List.cons_prefix_cons.2 ⟨rfl, ih (fun hw => hc (List.mem_cons_of_mem d hw)) hrest⟩

/-- The search for functions in a text that stands at `index` after the character `before`. -/
def Site.findFrom (before : Option Char) (index : Nat) (s : List Char) :
    List (Hit (Header × Option (List Char))) :=
  hitsFrom (fun _ => Site.find) (fun _ => 0) before index 0 s

theorem Site.candidates_eq (s : List Char) : Site.candidates s = Site.findFrom none 0 s := rfl

theorem Site.findFrom_append_of_none {a b : List Char}
    (h : ∀ u v, a = u ++ v → v ≠ [] → Site.find (v ++ b) = none) (before : Option Char)
    (index : Nat) :
    Site.findFrom before index (a ++ b) =
      Site.findFrom (a.getLast?.or before) (index + a.length) b :=
  hitsFrom_append_of_none before index a b fun u v e hv _ => h u v e hv

theorem Site.findFrom_append_of_some {a b : List Char} {value : Header × Option (List Char)}
    (ha : a ≠ []) (h : Site.find (a ++ b) = some (value, a.length)) (before : Option Char)
    (index : Nat) :
    Site.findFrom before index (a ++ b) =
      ⟨index, value⟩ :: Site.findFrom (a.getLast?.or before) (index + a.length) b :=
  hitsFrom_append_of_some ha h index

/-- A stretch without the first letter of the keyword is passed over. -/
theorem Site.findFrom_append_of_not_mem {a : List Char} (ha : 'f' ∉ a) (before : Option Char)
    (index : Nat) (b : List Char) :
    Site.findFrom before index (a ++ b) =
      Site.findFrom (a.getLast?.or before) (index + a.length) b := by
  refine Site.findFrom_append_of_none (fun u v ha' hv => ?_) before index
  cases v with
  | nil => exact absurd rfl hv
  | cons c v =>
    refine Site.find_eq_none (Header.read?_cons_eq_none ?_ _)
    rintro rfl
    exact ha (by simp [ha'])

/-! ## Functions -/

namespace FunctionForm

variable (f : FunctionForm)

/-- The site of a printed function. -/
def site (start : Nat) : Site :=
  ⟨start, f.header, f.bodyText⟩

theorem text_site (start : Nat) : (f.site start).text = f.text :=
  f.front_header_append_bodyText

/-- The text of a function from its body on. -/
theorem text_append (rest : List Char) :
    f.text ++ rest = f.header.text ++ (f.body ++ '}' :: rest) := by
  rw [← front_header_append_bodyText, Header.text_eq_front, bodyText]
  simp

theorem block?_body (rest : List Char) :
    block? ('{' :: (f.body ++ '}' :: rest)) = some f.bodyText := by
  refine block?_eq_some_iff.2 ⟨⟨rest, ?_⟩, f.body ++ ['}'], rfl, f.balanced.closes⟩
  simp [bodyText]

theorem find_text (rest : List Char) :
    Site.find (f.text ++ rest) = some ((f.header, some f.bodyText), f.header.text.length) := by
  rw [Site.find, text_append, f.read?_header, Option.map_some]
  simp only [f.block?_body]

/-- **Nothing is found in a body**: a header would mention the keyword, within the body or across
its closing brace. -/
theorem find_eq_none_of_body {u v : List Char} (h : f.body ++ ['}'] = u ++ v) (hv : v ≠ [])
    (rest : List Char) : Site.find (v ++ rest) = none := by
  refine Site.find_eq_none (Header.read?_eq_none_of_not_prefix fun hp => f.single ?_)
  obtain ⟨w, rfl⟩ : ∃ w, v = w ++ ['}'] := by
    obtain ⟨w, c, rfl⟩ := List.eq_nil_or_concat' v |>.resolve_left hv
    have hlast := congrArg List.getLast? h
    rw [List.getLast?_concat, ← List.append_assoc, List.getLast?_concat] at hlast
    exact ⟨w, by rw [Option.some.inj hlast]⟩
  have hbody : f.body = u ++ w := by
    rw [← List.append_assoc] at h
    exact List.append_cancel_right h
  rw [List.append_assoc] at hp
  obtain ⟨t, ht⟩ := prefix_of_prefix_append_cons (by decide) hp
  exact ⟨u, t, by rw [hbody, ← ht, List.append_assoc]⟩

/-- **A printed function is one hit**, and the search goes on after its body. -/
theorem findFrom_text (before : Option Char) (index : Nat) (rest : List Char) :
    Site.findFrom before index (f.text ++ rest) =
      ⟨index, (f.header, some f.bodyText)⟩ ::
        Site.findFrom (some '}') (index + f.text.length) rest := by
  have hne : f.header.text ≠ [] := by
    rw [Header.text_eq_front]
    simp
  have hfind : Site.find (f.header.text ++ (f.body ++ '}' :: rest)) =
      some ((f.header, some f.bodyText), f.header.text.length) := by
    rw [← text_append]
    exact f.find_text rest
  have hsplit : f.body ++ '}' :: rest = (f.body ++ ['}']) ++ rest := by simp
  have hlength : f.text.length = f.header.text.length + (f.body ++ ['}']).length := by
    have := congrArg List.length (f.text_append [])
    simpa using this
  rw [text_append, Site.findFrom_append_of_some hne hfind, hsplit,
    Site.findFrom_append_of_none fun u v h hv => f.find_eq_none_of_body h hv rest,
    List.getLast?_concat, Option.some_or, hlength, Nat.add_assoc]

/-- **The function at a printed function is the one that was printed.** -/
theorem function_site {s before after : List Char} (hs : s = before ++ (f.text ++ after))
    (line : Nat) : (f.site before.length).function (Cell.ofText s) line = f.function line := by
  have hplace : s = before ++ ((f.site before.length).text ++ after) := by rw [text_site, hs]
  rw [Site.function_ofText hplace rfl, text_site]
  have hqualifiers : (f.site before.length).header = f.header := rfl
  rw [hqualifiers, f.filterMap_visibility?, f.filterMap_mutability?, f.filterMap_returns?,
    f.filterMap_modifier?]
  have hparameters : Parameter.ofList f.header.parameters =
      f.parameters.map ParameterForm.parameter := ParameterForm.ofList_listText f.parameters
  have hreturns : f.returns.toList.getLast? = f.returns := by cases f.returns <;> rfl
  rw [hparameters, hreturns, Option.head?_toList, Option.head?_toList]
  rfl

/-! ## Rows of functions -/

/-- The text of functions, each with a line end after it. -/
def rowText (fs : List FunctionForm) : List Char :=
  fs.flatMap fun f => f.text ++ ['\n']

/-- The sites of functions that stand one after another from an index on. -/
def sitesFrom : (start : Nat) → List FunctionForm → List Site
  | _, [] => []
  | start, f :: more => f.site start :: sitesFrom (start + f.text.length + 1) more

theorem findFrom_rowText (fs : List FunctionForm) (before : Option Char) (index : Nat) :
    (Site.findFrom before index (rowText fs ++ ['}'])).filterMap
        (fun hit => hit.value.2.map fun body => ⟨hit.index, hit.value.1, body⟩) =
      sitesFrom index fs := by
  induction fs generalizing before index with
  | nil =>
    have hend := Site.findFrom_append_of_not_mem (a := ['}']) (by decide) before index []
    rw [List.append_nil] at hend
    rw [rowText, List.flatMap_nil, List.nil_append, hend]
    rfl
  | cons f fs ih =>
    have hsplit : rowText (f :: fs) ++ ['}'] = f.text ++ (['\n'] ++ (rowText fs ++ ['}'])) := by
      simp [rowText]
    rw [hsplit, findFrom_text, Site.findFrom_append_of_not_mem (by decide), List.filterMap_cons]
    simp only [Option.map_some]
    rw [ih, sitesFrom]
    rfl

/-- **The functions at the sites of printed functions are those that were printed**, the line of
each one counted from the front of the text. -/
theorem map_function_sitesFrom {s before after : List Char} (fs : List FunctionForm)
    (hs : s = before ++ (rowText fs ++ after)) :
    ((sitesFrom before.length fs).map fun site =>
        site.function (Cell.ofText s) (Site.lineAt (Cell.ofText s) site.start)) =
      functionsFrom (lineCount before) fs := by
  induction fs generalizing before with
  | nil => rfl
  | cons f fs ih =>
    have hhere : s = before ++ (f.text ++ ('\n' :: (rowText fs ++ after))) := by
      rw [hs]
      simp [rowText]
    have hnext : s = (before ++ f.text ++ ['\n']) ++ (rowText fs ++ after) := by
      rw [hhere]
      simp
    have hline : Site.lineAt (Cell.ofText s) before.length = lineCount before := by
      rw [Site.lineAt, Cell.map_char_ofText, hs, List.take_left]
    have hcount : lineCount (before ++ f.text ++ ['\n']) =
        lineCount before + f.text.count '\n' + 1 := by
      simp only [lineCount, List.count_append, List.count_singleton_self]
      omega
    have hrest := ih hnext
    rw [hcount] at hrest
    have hstart : before.length + f.text.length + 1 = (before ++ f.text ++ ['\n']).length := by
      simp only [List.length_append, List.length_singleton]
    rw [sitesFrom, hstart, List.map_cons, hrest, functionsFrom]
    show (f.site before.length).function _ (Site.lineAt _ before.length) :: _ = _
    rw [hline, f.function_site hhere]

end FunctionForm

/-! ## Contracts -/

namespace ContractForm

variable (c : ContractForm)

/-- **No header starts in the line of the declaration.** A name that ends in the keyword is followed
by the opening brace, and one that goes on after it is no header either. -/
theorem find_eq_none_of_name {u v : List Char} (h : c.name.text = u ++ v) (hv : v ≠ [])
    (rest : List Char) : Site.find (v ++ (" \x7b\n".toList ++ rest)) = none := by
  refine Site.find_eq_none ?_
  have hspace : v ++ (" \x7b\n".toList ++ rest) = v ++ ' ' :: '{' :: '\n' :: rest := by simp
  rw [hspace]
  by_cases hp : Header.keyword <+: v ++ ' ' :: '{' :: '\n' :: rest
  · obtain ⟨t, rfl⟩ := prefix_of_prefix_append_cons (by decide) hp
    rw [List.append_assoc]
    cases t with
    | nil => exact Header.read?_keyword_brace isBlank_of_mem_space _
    | cons d t => exact Header.read?_keyword_word (c.name.word d (by simp [h])) _
  · exact Header.read?_eq_none_of_not_prefix hp

theorem findFrom_headText (rest : List Char) :
    Site.findFrom none 0 (c.headText ++ rest) =
      Site.findFrom (some '\n') c.headText.length rest := by
  have hsplit : c.headText ++ rest =
      "contract ".toList ++ (c.name.text ++ (" \x7b\n".toList ++ rest)) := by
    unfold headText
    simp only [List.append_assoc]
  have hlength : c.headText.length =
      0 + "contract ".toList.length + c.name.text.length + " \x7b\n".toList.length := by
    unfold headText
    simp only [List.length_append, Nat.zero_add]
  have hlast (before : Option Char) : " \x7b\n".toList.getLast?.or before = some '\n' := rfl
  rw [hsplit, Site.findFrom_append_of_not_mem (by decide),
    Site.findFrom_append_of_none fun u v h hv => c.find_eq_none_of_name h hv rest,
    Site.findFrom_append_of_not_mem (by decide), hlast, hlength]

theorem text_eq : c.text = c.headText ++ (FunctionForm.rowText c.functions ++ ['}']) :=
  List.append_assoc _ _ _

/-- **The sites of a printed contract are those of its functions in order.** -/
theorem all_text : Site.all c.text = FunctionForm.sitesFrom c.headText.length c.functions := by
  rw [Site.all, Site.candidates_eq, text_eq, findFrom_headText]
  exact FunctionForm.findFrom_rowText _ _ _

/-! ## The declaration -/

/-- The code of a printed contract starts with its declaration as it was printed. -/
theorem exists_codeChars_text :
    ∃ code, codeChars c.text = "contract".toList ++ ' ' :: (c.name.text ++ ' ' :: code) := by
  have hplain : ∀ d ∈ "contract".toList ++ ' ' :: (c.name.text ++ [' ']),
      d ≠ '/' ∧ d ≠ '"' ∧ d ≠ '\'' := by
    intro d hd
    simp only [List.mem_append, List.mem_cons, List.not_mem_nil, or_false] at hd
    have hkeyword : "contract".toList.all (fun d => d ≠ '/' ∧ d ≠ '"' ∧ d ≠ '\'') = true := by
      decide
    rcases hd with hd | rfl | hd | rfl
    · simpa using List.all_eq_true.1 hkeyword d hd
    · decide
    · have hword := c.name.word d hd
      refine ⟨?_, ?_, ?_⟩
      all_goals
        rintro rfl
        exact absurd hword (by decide)
    · decide
  have hsplit : c.text = ("contract".toList ++ ' ' :: (c.name.text ++ [' '])) ++
      ("\x7b\n".toList ++ (FunctionForm.rowText c.functions ++ ['}'])) := by
    rw [text_eq]
    unfold headText
    simp
  refine ⟨codeChars ("\x7b\n".toList ++ (FunctionForm.rowText c.functions ++ ['}'])), ?_⟩
  rw [hsplit, codeChars_append hplain]
  simp only [List.append_assoc, List.cons_append, List.nil_append]

/-- The functions of a printed contract start on its second line. -/
theorem lineCount_headText : lineCount c.headText = 2 := by
  have hname : c.name.text.count '\n' = 0 := List.count_eq_zero.2 fun h => by
    exact absurd (c.name.word _ h) (by decide)
  unfold headText
  rw [lineCount, List.count_append, List.count_append, hname]
  rfl

/-- **Reading undoes printing.** A printed contract is read with its name and with exactly the
functions that were printed, in order, each with all that its form declares. -/
theorem read_text :
    (Contract.read .text (String.ofList c.text)).name = c.name.string ∧
      (Contract.read .text (String.ofList c.text)).functions =
        FunctionForm.functionsFrom 2 c.functions := by
  obtain ⟨code, hcode⟩ := c.exists_codeChars_text
  have hscan : Scanning.scan .text (String.ofList c.text).toList = c.text := by
    rw [String.toList_ofList, Scanning.scan_text]
  have hpresent : Declaration.isPresent (codeChars c.text) = true := by
    rw [hcode]
    exact Declaration.isPresent_contract _
  constructor
  · rw [Contract.read_eq, hscan, if_pos hpresent]
    simp only [hcode, Declaration.name_contract c.name.ne_nil c.name.word, Identifier.string]
  · rw [Contract.functions_read, Contract.sites, hscan, if_pos hpresent, all_text,
      String.toList_ofList, ← c.lineCount_headText]
    exact FunctionForm.map_function_sitesFrom c.functions c.text_eq

/-- A form with an array of arrays at a location, a modifier, nested braces in the body, and the
keyword within names. -/
example : ∃ c : ContractForm, String.ofList c.text =
    "contract functionC \x7b\nfunction functions(T[2][] memory a, U b) view m returns (x) \x7b\x7b\x7d\x7d\n\x7d" := by
  refine ⟨⟨⟨"functionC".toList, by simp, List.all_eq_true.1 (by decide)⟩, [{
    name := ⟨"functions".toList, by simp, List.all_eq_true.1 (by decide)⟩
    parameters :=
      [⟨⟨['T'], by simp, by simp; decide⟩, [['2'], []], ["memory"],
          ⟨['a'], by simp, by simp; decide⟩, by simp; decide, by decide +kernel,
          by decide +kernel⟩,
        ⟨⟨['U'], by simp, by simp; decide⟩, [], [], ⟨['b'], by simp, by simp; decide⟩,
          by simp, by simp, by decide +kernel⟩]
    visibility := none
    mutability := some .view
    modifiers := [⟨['m'], by simp, by simp; decide⟩]
    returns := some ['x']
    body := ['{', '}']
    plain := by decide +kernel
    unclosed := by decide +kernel
    balanced := balanced_iff.2 (by simp [balancedFrom_cons, braceStep])
    single := by decide +kernel }]⟩, ?_⟩
  decide +kernel

end ContractForm

end GasAdvisor
