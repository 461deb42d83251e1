import Screens.Service.Error

/-! The life of the service: it gets an address, runs, and is told to stop.

What the machine says to an address is a parameter: the address listened on, with a
free port for port 0, or why it cannot be had. -/
namespace Screens

abbrev Listen := SocketAddress → Except ListenError SocketAddress

/-- A word to stop, given once and for all. -/
structure StopSignal where
  given : Bool
deriving DecidableEq

namespace StopSignal

def clear : StopSignal := ⟨false⟩

def give (_signal : StopSignal) : StopSignal := ⟨true⟩

/-- Waiting for the word comes to an end. -/
def waitEnds (signal : StopSignal) : Bool := signal.given

end StopSignal

structure Server where
  address : Option SocketAddress
  stop : StopSignal
deriving DecidableEq

namespace Server

def fresh : Server := ⟨none, .clear⟩

/-- Listens on an address; without success the server stays as it was. -/
def bind (server : Server) (listen : Listen) (text : String) :
    Except ServiceError SocketAddress × Server :=
  match SocketAddress.ofString? text with
  | none => (.error (.cannotListen text .notAnAddress), server)
  | some wanted =>
    match listen wanted with
    | .error reason => (.error (.cannotListen wanted.render reason), server)
    | .ok address => (.ok address, { server with address := some address })

/-- Tells the server to stop, now or once it runs. -/
def shutdown (server : Server) : Server := { server with stop := server.stop.give }

/-- Runs until told to stop; tells whether that has happened. -/
def run (server : Server) : Except ServiceError Bool :=
  match server.address with
  | none => .error .notListening
  | some _ => .ok server.stop.waitEnds

end Server
end Screens
