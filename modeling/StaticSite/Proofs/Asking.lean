import StaticSite.Proofs.HeaderValues

/-! What a client asks for, as the server gets it: the method, the target and the headers as they were
sent, names in lower case, between the host and the wish that the connection may end. -/

namespace StaticSite.Wire

/-- What a client asks for. -/
structure Question where
  method : Text
  target : Text
  headers : Headers

/-- The headers that a client leaves to its connection. -/
def reservedNames : List Text :=
  ["host", "connection", "content-length", "transfer-encoding", "expect", "upgrade"].map String.toList

/-- A question as it can be put: a token, a target of visible characters, and headers that are as they
should be and leave alone what is for the connection. -/
structure Question.Proper (q : Question) : Prop where
  method : isRun isTokenChar q.method = true
  target : isRun isVisible q.target = true
  headers : AreHeaders q.headers
  free : ∀ h ∈ q.headers, h.1.asciiLower ∉ reservedNames

namespace Question

variable {q : Question}

/-- The bytes that are sent for a question. -/
def bytes (q : Question) : List UInt8 :=
  ask q.method q.target q.headers

/-- The headers of a question as they reach a site. -/
def received (q : Question) : Headers :=
  ("host".toList, "testserver".toList) :: q.headers.map (fun h => (h.1.asciiLower, h.2)) ++
    [("connection".toList, "close".toList)]

/-- The beginning of the request that a question makes. -/
def head (q : Question) : Head :=
  ⟨q.method, q.target, true, q.received⟩

/-- The scheme by which a question is said to have been asked before it was handed on: the last of its
headers that tells one counts. -/
def told? (q : Question) : Option Text :=
  (q.headers.last? schemeHeader).map Text.strip

/-- The scheme of a question, which is the one that is told if the client may tell it. -/
def scheme (q : Question) (client : Text) : Text :=
  match q.told? with
  | some told =>
      if trustedClients.contains client ∧ schemes.contains told then told else "http".toList
  | none => "http".toList

theorem Proper.isName_method (h : q.Proper) : IsName q.method :=
  isName_of_isRun h.method

theorem Proper.visible_target (h : q.Proper) : ∀ c ∈ q.target, 0x21 ≤ c.toNat ∧ c.toNat ≤ 0x7e := by
  have hrun := h.target
  simp only [isRun, Bool.and_eq_true] at hrun
  intro c hc
  have hvisible := List.all_eq_true.mp hrun.2 c hc
  simpa only [isVisible, Bool.and_eq_true, decide_eq_true_eq] using hvisible

theorem Proper.not_mem_target (h : q.Proper) {c : Char} (hc : c.toNat < 0x21) : c ∉ q.target := by
  intro hmem
  have := (h.visible_target c hmem).1
  omega

/-- The whole of the headers that are sent. -/
theorem Proper.areHeaders (h : q.Proper) :
    AreHeaders (("Host".toList, "testserver".toList) :: q.headers ++ [closeHeader]) := by
  have hclose : AreHeaders [closeHeader] := areHeaders_nil.cons (by decide) (by decide)
  have hhost : AreHeaders (("Host".toList, "testserver".toList) :: q.headers) :=
    h.headers.cons (by decide) (by decide)
  exact hhost.append hclose

/-- A server reads the lines that were sent. -/
theorem Proper.readLines_eq (h : q.Proper) :
    readLines [] (ofBytes q.bytes) =
      some (requestLine q.method q.target ::
        (("Host".toList, "testserver".toList) :: q.headers ++ [closeHeader]).map headerLine, []) := by
  have hlatin : IsLatin (requestLine q.method q.target) := by
    intro c hc
    simp only [requestLine, List.mem_append] at hc
    rcases hc with ((hc | hc) | hc) | hc
    · exact h.isName_method.latin c hc
    · exact isLatin_of_all (by decide) c hc
    · have := (h.visible_target c hc).2
      omega
    · exact isLatin_of_all (by decide) c hc
  have hline : IsLine (requestLine q.method q.target) := by
    refine ⟨by simp [requestLine], fun hmem => ?_⟩
    simp only [requestLine, List.mem_append] at hmem
    rcases hmem with ((hmem | hmem) | hmem) | hmem
    · exact h.isName_method.not_mem (by decide) hmem
    · revert hmem
      decide
    · exact h.not_mem_target (by decide) hmem
    · revert hmem
      decide
  exact readLines_bytes hline hlatin h.areHeaders

theorem Proper.readRequestLine?_eq (h : q.Proper) :
    readRequestLine? (requestLine q.method q.target) = some (q.method, q.target, true) := by
  have hsplit : Text.splitOn ' ' (requestLine q.method q.target) =
      [q.method, q.target, "HTTP/1.1".toList] := by
    have hline : requestLine q.method q.target =
        q.method ++ ' ' :: (q.target ++ ' ' :: "HTTP/1.1".toList) := by
      simp [requestLine]
    rw [hline, Text.splitOn_append_cons (h.isName_method.not_mem (by decide)),
      Text.splitOn_append_cons (h.not_mem_target (by decide)), Text.splitOn_of_not_mem (by decide)]
  rw [readRequestLine?, hsplit]
  simp only [h.method, h.target, and_self, if_true]
  rfl

end Question

/-! ### Header lines -/

theorem joinLinesAfter_eq {lines : List Text} (h : ∀ line ∈ lines, goesOn line = false)
    (current : Text) : joinLinesAfter current lines = current :: lines := by
  induction lines generalizing current with
  | nil => rfl
  | cons line rest ih =>
      rw [joinLinesAfter, h line List.mem_cons_self, if_neg Bool.false_ne_true,
        ih fun l hl => h l (List.mem_cons_of_mem _ hl)]

/-- Lines that each begin a header stay as they are. -/
theorem joinLines?_eq {lines : List Text} (h : ∀ line ∈ lines, goesOn line = false) :
    joinLines? lines = some lines := by
  cases lines with
  | nil => rfl
  | cons line rest =>
      rw [joinLines?, h line List.mem_cons_self, if_neg Bool.false_ne_true,
        joinLinesAfter_eq fun l hl => h l (List.mem_cons_of_mem _ hl)]

theorem goesOn_headerLine {name : Text} (h : IsName name) (value : Text) :
    goesOn (headerLine (name, value)) = false := by
  obtain ⟨c, rest, rfl⟩ := List.exists_cons_of_ne_nil h.notEmpty
  have htoken := h.token c List.mem_cons_self
  change isLineBlank c = false
  rw [← Bool.not_eq_true]
  simp only [isLineBlank, Bool.or_eq_true, beq_iff_eq]
  rintro (rfl | rfl) <;> exact absurd htoken (by decide)

/-! ### Names in lower case -/

theorem toLower_of_not_upper {c : Char} (h : ¬ (c.val ≥ 'A'.val ∧ c.val ≤ 'Z'.val)) :
    c.toLower = c :=
  dif_neg h

theorem toLower_toLower (c : Char) : c.toLower.toLower = c.toLower := by
  by_cases h : c.val ≥ 'A'.val ∧ c.val ≤ 'Z'.val
  · have hval : c.toLower.val = c.val + ('a'.val - 'A'.val) := congrArg Char.val (dif_pos h)
    refine toLower_of_not_upper ?_
    rintro ⟨-, hle⟩
    obtain ⟨hA, hZ⟩ := h
    rw [hval, UInt32.le_iff_toNat_le, UInt32.toNat_add] at hle
    rw [ge_iff_le, UInt32.le_iff_toNat_le] at hA
    rw [UInt32.le_iff_toNat_le] at hZ
    have h65 : 'A'.val.toNat = 65 := rfl
    have h90 : 'Z'.val.toNat = 90 := rfl
    have h32 : ('a'.val - 'A'.val).toNat = 32 := rfl
    omega
  · rw [toLower_of_not_upper h, toLower_of_not_upper h]

theorem asciiLower_asciiLower (t : Text) :
    Text.asciiLower (Text.asciiLower t) = Text.asciiLower t := by
  rw [Text.asciiLower, Text.asciiLower, List.map_map]
  exact List.map_congr_left fun c _ => toLower_toLower c

/-! ### The request that is read -/

namespace Question

variable {q : Question}

/-- A name that is reserved stands only where the connection puts it. -/
theorem Proper.ne_reserved (h : q.Proper) {name : Text} (hname : name ∈ reservedNames) :
    ∀ x ∈ q.headers.map (fun h => (h.1.asciiLower, h.2)), x.1 ≠ name := by
  intro x hx heq
  obtain ⟨y, hy, rfl⟩ := List.mem_map.mp hx
  rw [← heq] at hname
  exact h.free y hy hname

theorem Proper.hasHost_received (h : q.Proper) : hasHost true q.received = true := by
  have hnone : (q.headers.map (fun h => (h.1.asciiLower, h.2))).countP
      (fun h => h.1 == "host".toList) = 0 := by
    rw [List.countP_eq_zero]
    intro x hx
    simpa using h.ne_reserved (by decide) x hx
  rw [hasHost, received, List.countP_append, List.countP_cons, hnone]
  decide

/-- A header of a reserved name is found only if the connection put it. -/
theorem Proper.first?_received (h : q.Proper) {name : Text} (hname : name ∈ reservedNames)
    (hhost : name ≠ "host".toList) (hconnection : name ≠ "connection".toList) :
    q.received.first? name = none := by
  rw [Headers.first?, received, Option.map_eq_none_iff, List.find?_eq_none]
  intro x hx
  simp only [beq_iff_eq]
  rcases List.mem_append.mp hx with hx | hx
  · rcases List.mem_cons.mp hx with rfl | hx
    · exact fun heq => hhost (heq ▸ by decide)
    · obtain ⟨y, hy, rfl⟩ := List.mem_map.mp hx
      rw [asciiLower_asciiLower]
      exact fun heq => h.free y hy (heq ▸ hname)
  · rw [List.mem_singleton.mp hx]
    exact fun heq => hconnection (heq ▸ by decide)

/-- The headers that a connection adds tell no scheme. -/
theorem last?_received (q : Question) :
    q.received.last? schemeHeader = q.headers.last? schemeHeader := by
  have hreverse : q.received.reverse =
      ("connection".toList, "close".toList) ::
        (q.headers.reverse.map (fun h => (h.1.asciiLower, h.2)) ++
          [("host".toList, "testserver".toList)]) := by
    simp [received]
  rw [Headers.last?, Headers.last?, Headers.first?, Headers.first?, hreverse,
    List.find?_cons_of_neg (by decide), List.find?_append, List.find?_map,
    List.find?_cons_of_neg (by decide), List.find?_nil, Option.or_none, Option.map_map]
  simp only [Function.comp_def, asciiLower_asciiLower]

/-- The scheme is told by the headers as they were sent. -/
theorem scheme_head (q : Question) (client : Text) : q.head.scheme client = q.scheme client := by
  rw [Head.scheme, head, last?_received]
  rfl

theorem received_host (q : Question) : q.received.first? "host".toList = some "testserver".toList := by
  rfl

/-- The head of a question is read from its lines. -/
theorem Proper.readHead?_eq (h : q.Proper) :
    readHead? (requestLine q.method q.target ::
        (("Host".toList, "testserver".toList) :: q.headers ++ [closeHeader]).map headerLine) =
      some q.head := by
  have hlines : joinLines?
      ((("Host".toList, "testserver".toList) :: q.headers ++ [closeHeader]).map headerLine) =
      some ((("Host".toList, "testserver".toList) :: q.headers ++ [closeHeader]).map headerLine) := by
    refine joinLines?_eq fun line hline => ?_
    obtain ⟨x, hx, rfl⟩ := List.mem_map.mp hline
    exact goesOn_headerLine (h.areHeaders x hx).1 _
  have hread : ((("Host".toList, "testserver".toList) :: q.headers ++ [closeHeader]).map
      headerLine).mapM readHeader? = some q.received := by
    rw [mapM_map_eq_some (g := fun x => (x.1.asciiLower, x.2))
      fun x hx => readHeader?_headerLine (h.areHeaders x hx).1 (h.areHeaders x hx).2,
      List.map_append, List.map_cons]
    rfl
  simp only [readHead?, h.readRequestLine?_eq, hlines, hread, bind, Option.bind, h.hasHost_received,
    if_true, head]

/-- A question has no body. -/
theorem Proper.bodyLength?_eq (h : q.Proper) : q.head.bodyLength? = some 0 := by
  rw [Head.bodyLength?, head, h.first?_received (by decide) (by decide) (by decide),
    h.first?_received (by decide) (by decide) (by decide)]
  rfl

/-- The connection ends with the response to a question. -/
theorem keepsOpen_eq (q : Question) : q.head.keepsOpen = false := by
  have hclose : listHolds q.received "connection".toList "close".toList = true := by
    rw [listHolds, received, List.any_append, Bool.or_eq_true]
    exact Or.inr (by decide)
  rw [Head.keepsOpen, head, hclose]
  rfl

end Question

end StaticSite.Wire
