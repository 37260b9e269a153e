import DeepNps.LineReader
import DeepNps.Text
import DeepNps.TlsSniff
import Mathlib.Data.List.Sort

/-!
# The shared port

From its first bytes a connection is told to be HTTP, a client, or else TLS; then the head
or the server name decides the route.  Texts are strings of bytes here.
-/

namespace DeepNps.Pmux

open Segments

abbrev Bytes : Type := List UInt8

/-- `EqualFold`, `TrimSpace`, `Fields`, and the path that `url.ParseRequestURI` accepts. -/
structure TextEnv where
  equalFold : Bytes → Bytes → Bool
  trimSpace : Bytes → Bytes
  fields : Bytes → List Bytes
  parseRequestURI : Bytes → Option Bytes

inductive RouteKind
  | client
  | clientTLS
  | clientWS
  | clientWSS
  | clientReservedTLS
  | http
  | https
  | manager
  | managerTLS
  deriving DecidableEq

namespace RouteKind

def name : RouteKind → String
  | client => "client_tcp"
  | clientTLS => "client_tls"
  | clientWS => "client_ws"
  | clientWSS => "client_wss"
  | clientReservedTLS => "client_reserved_tls"
  | http => "http"
  | https => "https"
  | manager => "manager_http"
  | managerTLS => "manager_tls"

def all : List RouteKind :=
  [client, clientTLS, clientWS, clientWSS, clientReservedTLS, http, https, manager, managerTLS]

end RouteKind

inductive RouteFamily
  | none
  | http
  | tls
  deriving DecidableEq

structure RouteMatcher where
  family : RouteFamily
  host : Bytes
  path : Bytes
  websocketOnly : Bool
  allowEmptySNI : Bool
  fallback : Bool
  priority : Int

def RouteMatcher.zero : RouteMatcher where
  family := .none
  host := []
  path := []
  websocketOnly := false
  allowEmptySNI := false
  fallback := false
  priority := 0

/-- `PortMux`, with the kinds of routes that are registered. -/
structure PortMux where
  managerHost : Bytes
  clientHost : Bytes
  bridgePath : Bytes
  registered : RouteKind → Bool

/-- `GetIpByAddr`: 91, 93 and 58 are brackets and the colon. -/
def getIpByAddr (host : Bytes) : Bytes :=
  match host with
  | 91 :: rest => if 93 ∈ rest then rest.takeWhile (· ≠ 93) else []
  | _ => if host.count 58 = 1 then host.takeWhile (· ≠ 58) else host

section Matching

variable (env : TextEnv)

def normalizeRouteHost (host : Bytes) : Bytes := env.trimSpace (getIpByAddr host)

/-- 47 is the slash. -/
def normalizedBridgePath (mux : PortMux) : Bytes :=
  let path := env.trimSpace mux.bridgePath
  if path = [] then [47] else if path.head? = some 47 then path else 47 :: path

def routeMatcher (mux : PortMux) : RouteKind → RouteMatcher
  | .clientWS =>
      { RouteMatcher.zero with
        family := .http
        host := normalizeRouteHost env mux.clientHost
        path := normalizedBridgePath env mux
        websocketOnly := true
        priority := 100 }
  | .manager =>
      { RouteMatcher.zero with
        family := .http
        host := normalizeRouteHost env mux.managerHost
        priority := 90 }
  | .http => { RouteMatcher.zero with family := .http, fallback := true, priority := 10 }
  | .managerTLS =>
      { RouteMatcher.zero with
        family := .tls
        host := normalizeRouteHost env mux.managerHost
        priority := 100 }
  | .clientWSS =>
      { RouteMatcher.zero with
        family := .tls
        host := normalizeRouteHost env mux.clientHost
        priority := 90 }
  | .clientReservedTLS =>
      { RouteMatcher.zero with
        family := .tls
        host := normalizeRouteHost env mux.clientHost
        priority := 95 }
  | .clientTLS =>
      { RouteMatcher.zero with
        family := .tls
        host := normalizeRouteHost env mux.clientHost
        allowEmptySNI := true
        priority := 80 }
  | .https => { RouteMatcher.zero with family := .tls, fallback := true, priority := 10 }
  | .client => RouteMatcher.zero

/-- A route of higher priority comes first, then the one whose kind has the lesser name. -/
def Before (mux : PortMux) (kind other : RouteKind) : Prop :=
  (routeMatcher env mux other).priority < (routeMatcher env mux kind).priority ∨
    ((routeMatcher env mux kind).priority = (routeMatcher env mux other).priority ∧
      ¬ other.name < kind.name)

instance (mux : PortMux) : DecidableRel (Before env mux) :=
  fun _ _ => inferInstanceAs (Decidable (_ ∨ _))

def routeEntries (mux : PortMux) (family : RouteFamily) : List RouteKind :=
  (RouteKind.all.filter fun kind =>
    mux.registered kind ∧ (routeMatcher env mux kind).family = family).insertionSort
      (Before env mux)

def PortMux.getRoute (mux : PortMux) (kind : RouteKind) : Option RouteKind :=
  if mux.registered kind then some kind else none

structure HttpRequestMeta where
  host : Bytes
  path : Bytes
  connection : Bytes
  upgrade : Bytes

def parseHeader (line : Bytes) (name : String) : Option Bytes :=
  let front := Text.ascii (name ++ ":")
  if front.length ≤ line.length ∧ env.equalFold (line.take front.length) front then
    some (env.trimSpace (line.drop front.length))
  else none

/-- 63 and 35 are the question mark and the number sign. -/
def parseRequestPath (line : Bytes) : Bytes :=
  match env.fields line with
  | _ :: target :: _ =>
      let path := (env.parseRequestURI target).getD []
      if path ≠ [] then path
      else
        let target := target.takeWhile fun byte => byte ≠ 63 ∧ byte ≠ 35
        if target.head? = some 47 then target else []
  | _ => []

/-- The parts between commas, of which one is the token. -/
def headerContainsToken (value : Bytes) (token : String) : Bool :=
  (value.splitOn 44).any fun part => env.equalFold (env.trimSpace part) (Text.ascii token)

def httpMatch (mux : PortMux) (entry : RouteKind) (request : HttpRequestMeta) : Bool :=
  let normalizedHost := normalizeRouteHost env request.host
  let matcher := routeMatcher env mux entry
  if matcher.websocketOnly then
    env.equalFold normalizedHost matcher.host ∧ request.path = matcher.path ∧
      headerContainsToken env request.connection "upgrade" ∧
      headerContainsToken env request.upgrade "websocket"
  else if matcher.host ≠ [] then env.equalFold normalizedHost matcher.host
  else matcher.fallback

def classifyHTTPRequest (mux : PortMux) (request : HttpRequestMeta) : Option RouteKind :=
  let entries := routeEntries env mux .http
  let isFallback := fun entry => (routeMatcher env mux entry).fallback
  match entries.find? fun entry => ¬ isFallback entry ∧ httpMatch env mux entry request with
  | some entry => some entry
  | none =>
      if mux.registered .managerTLS ∧ env.equalFold (normalizeRouteHost env request.host)
          (routeMatcher env mux .managerTLS).host then
        mux.getRoute .https
      else
        match entries.find? isFallback with
        | some entry => some entry
        | none => mux.getRoute .https

def tlsMatch (mux : PortMux) (entry : RouteKind) (serverName : Bytes) : Bool :=
  let matcher := routeMatcher env mux entry
  if matcher.fallback then true
  else if serverName = [] ∨ matcher.host = [] then matcher.allowEmptySNI
  else env.equalFold serverName matcher.host

end Matching

/-- `PortConn`: a connection with the bytes that were read from it. -/
structure PortConn where
  rs : Bytes
  source : Source UInt8

namespace PortConn

def contents (conn : PortConn) : Bytes := conn.rs ++ Segments.contents conn.source

/-- `Read`: when there is room left behind the bytes that were read before, the connection is
read too. -/
def read (conn : PortConn) (size : Nat) : Option (Bytes × PortConn) :=
  let front := conn.rs.take size
  if conn.rs ≠ [] ∧ front.length = size then some (front, { conn with rs := conn.rs.drop size })
  else
    match Segments.read (size - front.length) conn.source with
    | none => if front = [] then none else some (front, { conn with rs := conn.rs.drop size })
    | some (bytes, source) => some (front ++ bytes, ⟨conn.rs.drop size, source⟩)

def reads (conn : PortConn) : List Nat → Bytes × PortConn
  | [] => ([], conn)
  | size :: sizes =>
      match conn.read size with
      | none => ([], conn)
      | some (bytes, next) => (bytes ++ (next.reads sizes).1, (next.reads sizes).2)

end PortConn

structure Classified extends PortConn where
  route : RouteKind

section Classifying

variable (env : TextEnv) (mux : PortMux)

/-- What a header line says about the request. -/
def HttpRequestMeta.note (request : HttpRequestMeta) (line : Bytes) : HttpRequestMeta :=
  match parseHeader env line "Host" with
  | some host => { request with host }
  | none =>
      match parseHeader env line "Connection" with
      | some connection => { request with connection }
      | none =>
          match parseHeader env line "Upgrade" with
          | some upgrade => { request with upgrade }
          | none => request

/-- The loop of `classifyHTTP`; the buffer gets the lines back with the ending that lines of
a head should have. -/
def readHeaders (request : HttpRequestMeta) (buffer : Bytes) (reader : LineReader) :
    Option Classified :=
  match isRead : reader.readLine with
  | none => none
  | some (line, _, next) =>
      have := LineReader.length_contents_lt isRead
      let buffer := buffer ++ line ++ [13, 10]
      if line = [] then
        (classifyHTTPRequest env mux request).map fun route =>
          ⟨⟨buffer ++ next.buffered, next.source⟩, route⟩
      else readHeaders (request.note env line) buffer next
termination_by reader.contents.length

def readHead (source : Source UInt8) (first : Bytes) : Option Classified :=
  match (LineReader.new source).readLine with
  | none => none
  | some (requestLine, _, reader) =>
      readHeaders env mux ⟨[], parseRequestPath env (first ++ requestLine), [], []⟩
        (first ++ requestLine ++ [13, 10]) reader

def readsHead : Bool :=
  match routeEntries env mux .http with
  | [] => false
  | [_] => (mux.getRoute .https).isSome
  | _ :: _ :: _ => true

def classifyHTTP (source : Source UInt8) (first : Bytes) : Option Classified :=
  if readsHead env mux then readHead env mux source first
  else
    match routeEntries env mux .http with
    | [] => (mux.getRoute .https).map fun route => ⟨⟨[], source⟩, route⟩
    | only :: _ => some ⟨⟨[], source⟩, only⟩

def readsHello : Bool :=
  match routeEntries env mux .tls with
  | [] => false
  | [only] => (routeMatcher env mux only).fallback
  | _ :: _ :: _ => true

/-- The route for a hello, or for a connection without one. -/
def classifyHello (hello : Option Bytes) : Option RouteKind :=
  let entries := routeEntries env mux .tls
  let isFallback := fun entry => (routeMatcher env mux entry).fallback
  match hello with
  | none => entries.find? isFallback
  | some name =>
      let serverName := normalizeRouteHost env name
      if serverName = [] ∧ 1 < entries.length then none
      else
        match entries.find? fun entry => ¬ isFallback entry ∧ tlsMatch env mux entry serverName with
        | some entry => some entry
        | none => entries.find? isFallback

def classifyTLS (handshake : Crypt.Handshake) (source : Source UInt8) (first : Bytes) :
    Option Classified :=
  if readsHello env mux then
    let (hello, rawData, rest) := Crypt.readClientHello handshake source first
    (classifyHello env mux hello).map fun route => ⟨⟨rawData, rest⟩, route⟩
  else (routeEntries env mux .tls).head?.map fun route => ⟨⟨[], source⟩, route⟩

/-- `BytesToNum`: the numbers of the bytes, written one after the other. -/
def bytesToNum (bytes : Bytes) : Nat :=
  bytes.foldl
    (fun value byte =>
      if 100 ≤ byte then value * 1000 + byte.toNat
      else if 10 ≤ byte then value * 100 + byte.toNat
      else value * 10 + byte.toNat) 0

def httpMethods : List Nat := [677978, 686976, 716984, 726965, 798084, 807983, 808585, 848265]

def clientSign : Nat := 848384

/-- `process`, up to the hand-over; without a route the connection is closed. -/
def process (handshake : Crypt.Handshake) (source : Source UInt8) : Option Classified :=
  match readFull 3 source with
  | none => none
  | some (first, rest) =>
      let classified :=
        if bytesToNum first ∈ httpMethods then classifyHTTP env mux rest first
        else if bytesToNum first = clientSign then
          (mux.getRoute .client).map fun route => ⟨⟨[], rest⟩, route⟩
        else classifyTLS env mux handshake rest first
      classified.map fun conn => if conn.rs = [] then { conn with rs := first } else conn

end Classifying

end DeepNps.Pmux
