import ErgGo.Lib.GoRuntime

/-!
# The command registry

Commands are registered under names such as "rss add" and are looked up by the first word of
the input. `splitCommand` goes through the bytes of its text; the bytes it looks for are
ASCII, so the model goes through the characters.
-/

namespace ErgGo.Bot
open Go

structure CommandEntry where
  name : String
  aliases : List String := []
  usage : String
  description : String
  category : String
  permission : ℤ := 0
  hidden : Bool := false
  cooldown : Time := 0
  deriving DecidableEq

structure CommandRegistry where
  entries : GoMap CommandEntry := ∅
  aliases : GoMap String := ∅
  byCategory : GoMap (List CommandEntry) := ∅

def quotationMark : Char := Char.ofNat 0x22
def apostrophe : Char := Char.ofNat 0x27

/-- The loop of `splitCommand`, with the part that is being read. -/
def splitParts : List Char → List Char → Bool → List String
  | [], current, _ => if current = [] then [] else [String.ofList current]
  | c :: rest, current, inQuote =>
    if c = quotationMark ∨ c = apostrophe then splitParts rest current (!inQuote)
    else if c = ' ' ∧ !inQuote then
      if current = [] then splitParts rest [] inQuote
      else String.ofList current :: splitParts rest [] inQuote
    else splitParts rest (current ++ [c]) inQuote

def splitCommand (text : String) : List String := splitParts text.toList [] false

def trimPrefix (s pre : String) : String :=
  if pre.toList <+: s.toList then String.ofList (s.toList.drop pre.length) else s

namespace CommandRegistry

def register (r : CommandRegistry) (entry : CommandEntry) : CommandRegistry where
  entries := r.entries.insert entry.name entry
  aliases := r.aliases.setAll (entry.aliases.map fun a => (a, entry.name))
  byCategory := r.byCategory.insert entry.category ((r.byCategory.lookup entry.category).getD [] ++ [entry])

def resolve (r : CommandRegistry) (name : String) : String := (r.aliases.lookup name).getD name

def get (r : CommandRegistry) (name : String) : Option CommandEntry := r.entries.lookup name

/-- The canonical name, the arguments and the entry, all empty where there is none. -/
def getByInput (r : CommandRegistry) (text : String) : String × List String × Option CommandEntry :=
  match splitCommand (trimPrefix text "/") with
  | [] => ("", [], none)
  | command :: args =>
    match r.get (r.resolve command) with
    | none => ("", [], none)
    | some entry => (r.resolve command, args, some entry)

end CommandRegistry

def commandEntries : List CommandEntry := [
  { name := "rss add", usage := "/rss add <url>", description := "Thêm RSS feed mới", category := "rss" },
  { name := "rss list", usage := "/rss list", description := "Liệt kê tất cả RSS feeds", category := "rss" },
  { name := "rss remove", usage := "/rss remove <url>", description := "Xóa RSS feed", category := "rss" },
  { name := "rss sync", usage := "/rss sync", description := "Đồng bộ tất cả feeds ngay", category := "rss" },
  { name := "rss preview", usage := "/rss preview <url>", description := "Xem trước RSS feed", category := "rss" },
  { name := "crawl start", usage := "/crawl start <url>", description := "Bắt đầu crawl URL", category := "crawl" },
  { name := "crawl status", usage := "/crawl status [job_id]", description := "Kiểm tra trạng thái crawl",
    category := "crawl" },
  { name := "crawl stop", usage := "/crawl stop <job_id>", description := "Dừng crawl job", category := "crawl" },
  { name := "crawl batch", usage := "/crawl batch <url1> [url2] [url3]...", description := "Crawl nhiều URL cùng lúc",
    category := "crawl" },
  { name := "crawl history", usage := "/crawl history [limit]", description := "Lịch sử crawl gần đây",
    category := "crawl" },
  { name := "trending top", usage := "/trending top", description := "Top 10 topics đang hot", category := "trending" },
  { name := "trending keyword", usage := "/trending keyword <topic>", description := "Chi tiết topic cụ thể",
    category := "trending" },
  { name := "draft list", usage := "/draft list", description := "Liệt kê bản nháp", category := "draft" },
  { name := "draft publish", usage := "/draft publish <id>", description := "Xuất bản bản nháp", category := "draft" },
  { name := "draft delete", usage := "/draft delete <id>", description := "Xóa bản nháp", category := "draft" },
  { name := "stats users", usage := "/stats users", description := "Số người dùng hệ thống", category := "stats" },
  { name := "stats crawler", usage := "/stats crawler", description := "Thống kê crawler", category := "stats" },
  { name := "stats queue", usage := "/stats queue", description := "Trạng thái job queue", category := "stats" },
  { name := "stats system", usage := "/stats system", description := "Tổng quan hệ thống", category := "stats" },
  { name := "system health", usage := "/system health", description := "Health check tất cả modules",
    category := "system" },
  { name := "system ping", usage := "/system ping", description := "Kiểm tra bot online", category := "system" },
  { name := "system reload", usage := "/system reload", description := "Reload cấu hình (admin)", category := "system" },
  { name := "system version", usage := "/system version", description := "Phiên bản hiện tại", category := "system" },
  { name := "help", usage := "/help", description := "Hiển thị danh sách lệnh", category := "system" }]

def buildRegistry : CommandRegistry := commandEntries.foldl CommandRegistry.register {}

/-! ## Splitting words -/

/-- A non-empty text without spaces or quotes. -/
structure IsWord (word : String) : Prop where
  nonempty : word ≠ ""
  plain : ∀ c ∈ word.toList, c ≠ ' ' ∧ c ≠ quotationMark ∧ c ≠ apostrophe

lemma isWord_of_all {word : String} (hnonempty : word ≠ "")
    (hplain : word.toList.all fun c => c ≠ ' ' && c ≠ quotationMark && c ≠ apostrophe) : IsWord word := by
  refine ⟨hnonempty, fun c hc => ?_⟩
  have hcharacter := List.all_eq_true.mp hplain c hc
  simpa [and_assoc] using hcharacter

lemma splitParts_append {word : List Char} (hword : ∀ c ∈ word, c ≠ ' ' ∧ c ≠ quotationMark ∧ c ≠ apostrophe)
    (rest current : List Char) : splitParts (word ++ rest) current false = splitParts rest (current ++ word) false := by
  induction word generalizing current with
  | nil => simp
  | cons c word ih =>
    obtain ⟨hspace, hquote, happostrophe⟩ := hword c List.mem_cons_self
    have hrest := ih (fun d hd => hword d (List.mem_cons_of_mem c hd)) (current ++ [c])
    rw [List.cons_append, splitParts, if_neg (not_or_intro hquote happostrophe), if_neg (fun h => hspace h.1), hrest,
      List.append_assoc, List.singleton_append]

/-- A word up to a space is a part. -/
lemma splitParts_word {word : String} (hword : IsWord word) (rest : List Char) :
    splitParts (word.toList ++ ' ' :: rest) [] false = word :: splitParts rest [] false := by
  have hnonempty : word.toList ≠ [] := by simpa using hword.nonempty
  rw [splitParts_append hword.plain, List.nil_append, splitParts, if_neg (by decide), if_pos ⟨rfl, rfl⟩,
    if_neg hnonempty, String.ofList_toList]

lemma splitParts_lastWord {word : String} (hword : IsWord word) : splitParts word.toList [] false = [word] := by
  have hsplit := splitParts_append hword.plain [] []
  have hnonempty : word.toList ≠ [] := by simpa using hword.nonempty
  rw [List.append_nil, List.nil_append, splitParts, if_neg hnonempty, String.ofList_toList] at hsplit
  exact hsplit

/-- Words joined by spaces are split into these words, whatever follows after a space. -/
lemma splitParts_words {words : List String} (hwords : ∀ w ∈ words, IsWord w) (hsome : words ≠ []) (rest : List Char) :
    splitParts ((" ".intercalate words).toList ++ ' ' :: rest) [] false = words ++ splitParts rest [] false := by
  induction words with
  | nil => exact absurd rfl hsome
  | cons word words ih =>
    have hword := hwords word List.mem_cons_self
    cases words with
    | nil =>
      rw [String.intercalate_singleton, splitParts_word hword]
      rfl
    | cons word' words =>
      have hlater := ih (fun w hw => hwords w (List.mem_cons_of_mem word hw)) (List.cons_ne_nil _ _)
      have hspace : " ".toList = [' '] := rfl
      rw [String.intercalate_cons_cons, String.toList_append, String.toList_append, hspace, List.append_assoc,
        List.append_assoc, List.singleton_append, splitParts_word hword, hlater]
      rfl

lemma splitParts_lastWords {words : List String} (hwords : ∀ w ∈ words, IsWord w) :
    splitParts (" ".intercalate words).toList [] false = words := by
  induction words with
  | nil => rfl
  | cons word words ih =>
    have hword := hwords word List.mem_cons_self
    cases words with
    | nil =>
      rw [String.intercalate_singleton]
      exact splitParts_lastWord hword
    | cons word' words =>
      have hlater := ih (fun w hw => hwords w (List.mem_cons_of_mem word hw))
      have hspace : " ".toList = [' '] := rfl
      rw [String.intercalate_cons_cons, String.toList_append, String.toList_append, hspace, List.append_assoc,
        List.singleton_append, splitParts_word hword, hlater]

lemma trimPrefix_slash (text : String) : trimPrefix ("/" ++ text) "/" = text := by
  have hslash : ("/" ++ text).toList = '/' :: text.toList := by rw [String.toList_append]; rfl
  have hpre : "/".toList <+: '/' :: text.toList := List.prefix_append ['/'] text.toList
  unfold trimPrefix
  rw [hslash, if_pos hpre]
  exact String.ofList_toList

/-- The text of a command splits into the words of its name and its arguments. -/
lemma splitCommand_input {words args : List String} (hwords : ∀ w ∈ words, IsWord w) (hsome : words ≠ [])
    (hargs : ∀ a ∈ args, IsWord a) :
    splitCommand (trimPrefix ("/" ++ " ".intercalate words ++ " " ++ " ".intercalate args) "/") = words ++ args := by
  have hspace : " ".toList = [' '] := rfl
  rw [String.append_assoc, String.append_assoc, trimPrefix_slash]
  unfold splitCommand
  rw [String.toList_append, String.toList_append, hspace, List.singleton_append, splitParts_words hwords hsome,
    splitParts_lastWords hargs]

/-! ## Dispatch -/

/-- The text of the command and its arguments finds the command and exactly these arguments. -/
def Dispatched (r : CommandRegistry) (name : String) (args : List String) (entry : CommandEntry) : Prop :=
  r.getByInput ("/" ++ name ++ " " ++ " ".intercalate args) = (name, args, some entry)

/-- A registered name is found by its own text exactly if it is one word that is no alias of
another command. -/
theorem dispatched_iff (r : CommandRegistry) (words args : List String) (hwords : ∀ w ∈ words, IsWord w)
    (hsome : words ≠ []) (hargs : ∀ a ∈ args, IsWord a) (entry : CommandEntry)
    (hentry : r.get (" ".intercalate words) = some entry) :
    Dispatched r (" ".intercalate words) args entry ↔
      words.length = 1 ∧ r.resolve (" ".intercalate words) = " ".intercalate words := by
  unfold Dispatched CommandRegistry.getByInput
  rw [splitCommand_input hwords hsome hargs]
  cases words with
  | nil => exact absurd rfl hsome
  | cons word words =>
  cases words with
  | nil =>
    rw [String.intercalate_singleton] at hentry ⊢
    simp only [List.singleton_append, List.length_singleton, true_and]
    constructor
    · intro hfound
      cases hget : r.get (r.resolve word) with
      | none => simp [hget] at hfound
      | some entry' =>
        rw [hget] at hfound
        exact congrArg Prod.fst hfound
    · intro hresolve
      rw [hresolve, hentry]
  | cons word' words =>
    simp only [List.cons_append, List.length_cons]
    constructor
    · intro hfound
      cases hget : r.get (r.resolve word) with
      | none => simp [hget] at hfound
      | some entry' =>
        rw [hget] at hfound
        have hlength : (word' :: (words ++ args)).length = args.length := congrArg (fun found => found.2.1.length) hfound
        simp only [List.length_cons, List.length_append] at hlength
        omega
    · intro h
      omega

theorem help_dispatched : ∃ entry, buildRegistry.get "help" = some entry ∧ Dispatched buildRegistry "help" ["rss"] entry := by
  have hwords : ∀ w ∈ ["help"], IsWord w := by
    rintro w hw
    obtain rfl := List.mem_singleton.mp hw
    exact isWord_of_all (by decide) (by decide)
  have hargs : ∀ a ∈ ["rss"], IsWord a := by
    rintro a ha
    obtain rfl := List.mem_singleton.mp ha
    exact isWord_of_all (by decide) (by decide)
  obtain ⟨entry, hentry⟩ : ∃ entry, buildRegistry.get "help" = some entry := Option.isSome_iff_exists.mp (by decide)
  have hresolve : buildRegistry.resolve "help" = "help" := by decide
  exact ⟨entry, hentry, (dispatched_iff buildRegistry ["help"] ["rss"] hwords (by decide) hargs entry hentry).mpr
    ⟨rfl, hresolve⟩⟩

theorem rss_add_not_dispatched : ∃ entry, buildRegistry.get "rss add" = some entry ∧
    ¬Dispatched buildRegistry "rss add" ["https://erg.vn/feed"] entry ∧
      buildRegistry.getByInput "/rss add https://erg.vn/feed" = ("", [], none) := by
  obtain ⟨entry, hentry⟩ : ∃ entry, buildRegistry.get "rss add" = some entry := Option.isSome_iff_exists.mp (by decide)
  have hnothing : buildRegistry.getByInput "/rss add https://erg.vn/feed" = ("", [], none) := by decide
  refine ⟨entry, hentry, fun hdispatched => ?_, hnothing⟩
  have htext : "/" ++ "rss add" ++ " " ++ " ".intercalate ["https://erg.vn/feed"] = "/rss add https://erg.vn/feed" := by
    decide
  unfold Dispatched at hdispatched
  rw [htext, hnothing] at hdispatched
  have hname : "" = "rss add" := congrArg Prod.fst hdispatched
  exact absurd hname (by decide)

end ErgGo.Bot
