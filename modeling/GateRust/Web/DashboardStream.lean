/-
# The stream of dashboards

`GET /api/events` answers with an event for each dashboard that the server takes from its channel,
and with a comment when nothing was sent for a while.  `streamDashboard` gets the text of the body
in pieces, as the network and the decoder of the browser cut it.  It splits what it has at the empty
lines, and calls the page with what `JSON.parse` makes of the data of an event.

`JSON.parse` is a parameter.  The hypothesis on it is that it reads the dashboards which are sent.
-/
import GateRust.Lib.Delimited
import GateRust.Control.Dashboard

namespace GateRust.Web

open Control

/-! ## The server -/

/-- A text in JSON, of a number, a truth value or an object. -/
def jsonNumber (n : ℕ) : List Char := Nat.toDigits 10 n

def jsonBool (b : Bool) : List Char := if b then "true".toList else "false".toList

def jsonField (name : String) (value : List Char) : List Char :=
  '"' :: name.toList ++ '"' :: ':' :: value

def jsonObject (fields : List (List Char)) : List Char :=
  '{' :: [','].intercalate fields ++ ['}']

/-- `serde_json::to_string`. -/
def dashboardJson (d : Dashboard) : List Char :=
  jsonObject
    [jsonField "revision" (jsonNumber d.revision),
      jsonField "tunnel_enabled" (jsonBool d.tunnelEnabled),
      jsonField "proxy_enabled" (jsonBool d.proxyEnabled), jsonField "groups" (jsonNumber d.groups),
      jsonField "tunnels" (jsonNumber d.tunnels),
      jsonField "certificates" (jsonNumber d.certificates),
      jsonField "routes" (jsonNumber d.routes)]

/-- An event has a line for its name, one for each line of its data, and an empty one. -/
def sseEvent (name data : List Char) : List Char :=
  "event: ".toList ++ name ++ ['\n'] ++
    ((data.splitOn '\n').flatMap fun line => "data: ".toList ++ line ++ ['\n']) ++ ['\n']

/-- The comment that keeps the connection alive. -/
def sseKeepAlive : List Char := [':', '\n', '\n']

/-- What the server sends. -/
inductive SseItem where
  | event (d : Dashboard)
  | keepAlive
deriving DecidableEq

namespace SseItem

def text : SseItem → List Char
  | .event d => sseEvent "dashboard".toList (dashboardJson d)
  | .keepAlive => sseKeepAlive

def dashboard : SseItem → Option Dashboard
  | .event d => some d
  | .keepAlive => none

end SseItem

/-! ## The page -/

/-- The white space and the line terminators that `trim` removes. -/
def jsSpaces : List ℕ :=
  [9, 10, 11, 12, 13, 32, 160, 5760, 8192, 8193, 8194, 8195, 8196, 8197, 8198, 8199, 8200, 8201,
    8202, 8232, 8233, 8239, 8287, 12288, 65279]

def trim (text : List Char) : List Char :=
  ((text.dropWhile fun c => c.toNat ∈ jsSpaces).reverse.dropWhile fun c =>
    c.toNat ∈ jsSpaces).reverse

/-- The data of the first line with data, none when there is no such line or the data is empty. -/
def eventData (event : List Char) : Option (List Char) :=
  (((event.splitOn '\n').find? fun line => "data:".toList.isPrefixOf line).map fun line =>
    trim (line.drop 5)).filter fun data => data ≠ []

variable (parse : List Char → Option Dashboard)

/-- The calls of `onDashboard` for the events, and whether `JSON.parse` has thrown. -/
def handleEvents : List (List Char) → List Dashboard × Bool
  | [] => ([], false)
  | event :: events =>
    match eventData event with
    | none => handleEvents events
    | some data =>
      match parse data with
      | none => ([], true)
      | some d => (d :: (handleEvents events).1, (handleEvents events).2)

/-- The state of `streamDashboard`. -/
structure DashboardReader where
  buffer : List Char
  calls : List Dashboard
  thrown : Bool
deriving DecidableEq

namespace DashboardReader

def new : DashboardReader := ⟨[], [], false⟩

/-- A call of `reader.read` returns a piece of the text. -/
def onChunk (r : DashboardReader) (value : List Char) : DashboardReader :=
  if r.thrown then r
  else
    let events := Delimited.split ['\n', '\n'] (r.buffer ++ value)
    let (calls, thrown) := handleEvents parse events.dropLast
    ⟨events.getLastD [], r.calls ++ calls, thrown⟩

end DashboardReader

/-! ## What an event is for the page -/

/-- No character of the text is white space or ends a line. -/
def Solid (text : List Char) : Prop := ∀ c ∈ text, 33 ≤ c.toNat ∧ c.toNat < 128

lemma solid_jsonNumber (n : ℕ) : Solid (jsonNumber n) := by
  intro c hc
  have hdigit : c.isDigit = true := Nat.isDigit_of_mem_toDigits (by decide) (by decide) hc
  rw [Char.isDigit, Bool.and_eq_true, decide_eq_true_eq, decide_eq_true_eq] at hdigit
  have hlow : 48 ≤ c.toNat := hdigit.1
  have hhigh : c.toNat ≤ 57 := hdigit.2
  omega

lemma solid_jsonBool (b : Bool) : Solid (jsonBool b) := by
  cases b <;> simp [Solid, jsonBool]

lemma solid_jsonField {name : String} {value : List Char} (hname : Solid name.toList)
    (hvalue : Solid value) : Solid (jsonField name value) := by
  intro c hc
  simp only [jsonField, List.cons_append, List.mem_cons, List.mem_append] at hc
  rcases hc with rfl | hc | rfl | rfl | hc
  · decide
  · exact hname c hc
  · decide
  · decide
  · exact hvalue c hc

lemma solid_dashboardJson (d : Dashboard) : Solid (dashboardJson d) := by
  intro c hc
  simp only [dashboardJson, jsonObject, List.cons_append, List.mem_cons, List.mem_append,
    List.not_mem_nil, or_false] at hc
  rcases hc with rfl | hc | rfl
  · decide
  · rcases Proxy.mem_of_mem_intercalate hc with hc | ⟨field, hfield, hc⟩
    · obtain rfl : c = ',' := List.mem_singleton.mp hc
      decide
    · simp only [List.mem_cons, List.not_mem_nil, or_false] at hfield
      rcases hfield with rfl | rfl | rfl | rfl | rfl | rfl | rfl
      all_goals
        refine solid_jsonField (by simp [Solid]) ?_ c hc
        first | exact solid_jsonNumber _ | exact solid_jsonBool _
  · decide

lemma newline_notMem {text : List Char} (h : Solid text) : '\n' ∉ text :=
  fun hc => absurd (h _ hc).1 (by decide)

/-- White space in front of a text, and none in it. -/
lemma trim_cons {text : List Char} (h : Solid text) : trim (' ' :: text) = text := by
  have hspace : ∀ c ∈ text, decide (c.toNat ∈ jsSpaces) = false := by
    intro c hc
    obtain ⟨hlow, hhigh⟩ := h c hc
    simp only [jsSpaces, List.mem_cons, List.not_mem_nil, or_false, decide_eq_false_iff_not]
    omega
  have hdrop : ∀ l : List Char, (∀ c ∈ l, decide (c.toNat ∈ jsSpaces) = false) →
      l.dropWhile (fun c => decide (c.toNat ∈ jsSpaces)) = l := by
    intro l hl
    cases l with
    | nil => rfl
    | cons c l => rw [List.dropWhile_cons_of_neg (by simp [hl c List.mem_cons_self])]
  rw [trim, List.dropWhile_cons_of_pos (by decide), hdrop text hspace,
    hdrop text.reverse fun c hc => hspace c (List.mem_reverse.mp hc), List.reverse_reverse]

/-- An event of one line of data, without the empty line at its end. -/
def eventLines (name data : List Char) : List Char :=
  "event: ".toList ++ name ++ '\n' :: ("data: ".toList ++ data)

lemma eventLines_eq (name data : List Char) : eventLines name data =
    ("event: ".toList ++ name) ++ '\n' :: ("data: ".toList ++ data) := rfl

lemma sseEvent_eq {name data : List Char} (h : '\n' ∉ data) :
    sseEvent name data = eventLines name data ++ ['\n', '\n'] := by
  have hevent : sseEvent name data = "event: ".toList ++ name ++ ['\n'] ++
      ((data.splitOn '\n').flatMap fun line => "data: ".toList ++ line ++ ['\n']) ++ ['\n'] := rfl
  rw [hevent, eventLines_eq, List.splitOn_eq_singleton h, List.flatMap_singleton]
  simp only [List.append_assoc, List.cons_append, List.nil_append]

lemma newline_notMem_data {data : List Char} (h : '\n' ∉ data) :
    '\n' ∉ "data: ".toList ++ data := by
  rw [List.mem_append, not_or]
  exact ⟨by simp, h⟩

lemma newline_notMem_name : '\n' ∉ "event: ".toList ++ "dashboard".toList := by simp

lemma isPiece_eventLines {data : List Char} (h : '\n' ∉ data) :
    Delimited.Piece ['\n', '\n'] (eventLines "dashboard".toList data) := by
  rw [eventLines_eq]
  exact Delimited.piece_cons_line newline_notMem_name (by simp)
    (newline_notMem_data h) (List.append_ne_nil_of_left_ne_nil (by simp) _)

lemma eventData_eventLines {data : List Char} (h : Solid data) (hne : data ≠ []) :
    eventData (eventLines "dashboard".toList data) = some data := by
  have hdata : "data: ".toList = "data:".toList ++ [' '] := by simp
  have hlines : (eventLines "dashboard".toList data).splitOn '\n' =
      ["event: ".toList ++ "dashboard".toList, "data: ".toList ++ data] := by
    rw [eventLines_eq, List.splitOn_append_cons_self_of_not_mem newline_notMem_name,
      List.splitOn_eq_singleton (newline_notMem_data (newline_notMem h))]
  have hfind : ["event: ".toList ++ "dashboard".toList, "data: ".toList ++ data].find?
      (fun line => "data:".toList.isPrefixOf line) = some ("data: ".toList ++ data) := by
    rw [List.find?_cons_of_neg (by simp), List.find?_cons_of_pos]
    rw [List.isPrefixOf_iff_prefix, hdata, List.append_assoc]
    exact List.prefix_append _ _
  have htrim : trim (("data: ".toList ++ data).drop 5) = data := by
    rw [hdata, List.append_assoc, List.drop_left' (by simp)]
    exact trim_cons h
  rw [eventData, hlines, hfind, Option.map_some, htrim, Option.filter_some,
    if_pos (decide_eq_true hne)]

namespace SseItem

/-- The text of an item without the empty line at its end. -/
def piece : SseItem → List Char
  | .event d => eventLines "dashboard".toList (dashboardJson d)
  | .keepAlive => [':']

lemma text_eq (item : SseItem) : item.text = item.piece ++ ['\n', '\n'] := by
  cases item with
  | keepAlive => rfl
  | event d => exact sseEvent_eq (newline_notMem (solid_dashboardJson d))

lemma isPiece (item : SseItem) : Delimited.Piece ['\n', '\n'] item.piece := by
  cases item with
  | keepAlive => exact Delimited.piece_line (by decide) (by decide)
  | event d => exact isPiece_eventLines (newline_notMem (solid_dashboardJson d))

/-- The page sees the text of the dashboard in an event, and nothing in a comment. -/
lemma eventData_piece (item : SseItem) :
    eventData item.piece = item.dashboard.map dashboardJson := by
  cases item with
  | keepAlive => rfl
  | event d => exact eventData_eventLines (solid_dashboardJson d) (List.cons_ne_nil _ _)

end SseItem

/-! ## What the page reads -/

variable {parse} {items : List SseItem} {chunks : List (List Char)}

/-- The events are those of the items, and `JSON.parse` reads the dashboards in them. -/
lemma handleEvents_pieces (h : ∀ d, SseItem.event d ∈ items → parse (dashboardJson d) = some d) :
    handleEvents parse (items.map SseItem.piece) = (items.filterMap SseItem.dashboard, false) := by
  induction items with
  | nil => rfl
  | cons item items ih =>
    have hrest := ih fun d hd => h d (List.mem_cons_of_mem _ hd)
    rw [List.map_cons, handleEvents, SseItem.eventData_piece]
    cases item with
    | keepAlive => exact hrest
    | event d =>
      dsimp only [SseItem.dashboard, Option.map_some]
      rw [h d List.mem_cons_self, hrest]
      rfl

/-- The calls for some events, and then for more. -/
lemma handleEvents_append {events more : List (List Char)}
    (h : (handleEvents parse events).2 = false) :
    handleEvents parse (events ++ more) =
      ((handleEvents parse events).1 ++ (handleEvents parse more).1,
        (handleEvents parse more).2) := by
  induction events with
  | nil => rfl
  | cons event events ih =>
    rw [List.cons_append, handleEvents]
    rw [handleEvents] at h
    cases hdata : eventData event with
    | none =>
      rw [hdata] at h
      rw [handleEvents, hdata]
      exact ih h
    | some data =>
      rw [hdata] at h
      rw [handleEvents, hdata]
      dsimp only at h ⊢
      cases hparse : parse data with
      | none =>
        rw [hparse] at h
        cases h
      | some d =>
        rw [hparse] at h
        dsimp only at h ⊢
        rw [ih h]
        rfl

/-- What throws nothing has thrown nothing before. -/
lemma not_thrown_of_append {events more : List (List Char)}
    (h : (handleEvents parse (events ++ more)).2 = false) :
    (handleEvents parse events).2 = false := by
  induction events with
  | nil => rfl
  | cons event events ih =>
    rw [List.cons_append, handleEvents] at h
    rw [handleEvents]
    cases hdata : eventData event with
    | none =>
      rw [hdata] at h
      exact ih h
    | some data =>
      rw [hdata] at h
      dsimp only at h ⊢
      cases hparse : parse data with
      | none =>
        rw [hparse] at h
        cases h
      | some d =>
        rw [hparse] at h
        exact ih h

/-- What the reader has split off of the text, and what is left. -/
abbrev received (chunks : List (List Char)) : Delimited.Scan Char :=
  Delimited.scan ['\n', '\n'] Delimited.start chunks.flatten

lemma received_concat (chunks : List (List Char)) (chunk : List Char) :
    received (chunks ++ [chunk]) =
      Delimited.feed ['\n', '\n'] (received chunks) chunk := by
  have hfeed := Delimited.foldl_feed (d := ['\n', '\n']) (chunks ++ [chunk])
  rw [List.foldl_append, Delimited.foldl_feed] at hfeed
  exact hfeed.symm

namespace DashboardReader

/-- Reading in pieces is reading the whole text, as long as nothing is thrown. -/
lemma foldl_onChunk (h : (handleEvents parse (received chunks).pieces).2 = false) :
    chunks.foldl (onChunk parse) new =
      ⟨(received chunks).rest, (handleEvents parse (received chunks).pieces).1, false⟩ := by
  induction chunks using List.reverseRecOn with
  | nil => rfl
  | append_singleton chunks chunk ih =>
    rw [received_concat] at h ⊢
    have hbefore : (handleEvents parse (received chunks).pieces).2 = false :=
      not_thrown_of_append h
    rw [List.foldl_append, ih hbefore]
    simp only [Delimited.feed] at h ⊢
    rw [handleEvents_append hbefore] at h ⊢
    rw [List.foldl_cons, List.foldl_nil, onChunk, if_neg Bool.false_ne_true]
    dsimp only at h ⊢
    rw [h]

/-- **The page gets what the server sent.**  The body is the text of some items, and a part of it
has come in, cut in whatever way.  Then the page was called with exactly the dashboards of those
items that have come in as a whole, in their order, and nothing was thrown. -/
theorem calls_of_received (items : List SseItem) (chunks : List (List Char))
    (hparse : ∀ d, SseItem.event d ∈ items → parse (dashboardJson d) = some d)
    (hpart : chunks.flatten <+: items.flatMap SseItem.text) :
    ∃ k ≤ items.length,
      (items.take k).flatMap SseItem.text <+: chunks.flatten ∧
      (k < items.length →
        chunks.flatten.length < ((items.take (k + 1)).flatMap SseItem.text).length) ∧
      (chunks.foldl (onChunk parse) new).calls = (items.take k).filterMap SseItem.dashboard ∧
      (chunks.foldl (onChunk parse) new).thrown = false := by
  have htext : ∀ l : List SseItem,
      l.flatMap SseItem.text = (l.map SseItem.piece).flatMap (· ++ ['\n', '\n']) := by
    intro l
    rw [List.flatMap_map]
    exact List.flatMap_congr fun item _ => item.text_eq
  have hpieces : ∀ piece ∈ items.map SseItem.piece, Delimited.Piece ['\n', '\n'] piece := by
    intro piece hpiece
    obtain ⟨item, -, rfl⟩ := List.mem_map.mp hpiece
    exact item.isPiece
  rw [htext] at hpart
  obtain ⟨k, hk, hscan, hwhole, hmore⟩ := Delimited.pieces_of_isPrefix hpieces hpart
  rw [List.length_map] at hk hmore
  rw [← List.map_take, ← htext] at hwhole hmore
  have hcalls : handleEvents parse (received chunks).pieces =
      ((items.take k).filterMap SseItem.dashboard, false) := by
    rw [hscan, ← List.map_take]
    exact handleEvents_pieces fun d hd => hparse d (List.mem_of_mem_take hd)
  have hread := foldl_onChunk (congrArg Prod.snd hcalls)
  refine ⟨k, hk, hwhole, hmore, ?_, ?_⟩
  · rw [hread, hcalls]
  · rw [hread]

def sampleDashboard : Dashboard := ⟨3, true, false, 1, 2, 0, 0⟩

/-- It reads the text of one dashboard. -/
def sampleParse (json : List Char) : Option Dashboard :=
  if json = dashboardJson sampleDashboard then some sampleDashboard else none

/-- A comment and an event. -/
def sampleItems : List SseItem := [.keepAlive, .event sampleDashboard]

/-- The body is cut between the two newlines that end the comment, and the decoder gives the rest at
once. -/
theorem calls_sample :
    ([(sampleItems.flatMap SseItem.text).take 2, (sampleItems.flatMap SseItem.text).drop 2].foldl
      (onChunk sampleParse) new).calls = [sampleDashboard] := by
  have hflatten : [(sampleItems.flatMap SseItem.text).take 2,
      (sampleItems.flatMap SseItem.text).drop 2].flatten = sampleItems.flatMap SseItem.text := by
    rw [List.flatten_cons, List.flatten_singleton, List.take_append_drop]
  have hparse : ∀ d, SseItem.event d ∈ sampleItems → sampleParse (dashboardJson d) = some d := by
    intro d hd
    obtain rfl : d = sampleDashboard := by simpa [sampleItems] using hd
    exact if_pos rfl
  obtain ⟨k, hk, -, hmore, hcalls, -⟩ := calls_of_received sampleItems
    [(sampleItems.flatMap SseItem.text).take 2, (sampleItems.flatMap SseItem.text).drop 2] hparse
    (hflatten ▸ List.prefix_rfl)
  rw [hflatten] at hmore
  have hall : k = sampleItems.length := by
    by_contra hne
    have hlt := hmore (lt_of_le_of_ne hk hne)
    have hsplit : (sampleItems.take (k + 1)).flatMap SseItem.text ++
        (sampleItems.drop (k + 1)).flatMap SseItem.text = sampleItems.flatMap SseItem.text := by
      rw [← List.flatMap_append, List.take_append_drop]
    rw [← hsplit, List.length_append] at hlt
    omega
  rw [hcalls, hall]
  rfl

end DashboardReader

end GateRust.Web
