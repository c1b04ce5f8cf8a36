import RingQueue.Json.Printer
import RingQueue.Stress.Report

/-! A report as text for readers, with or without colours, and as JSON. -/
namespace RingQueue

open RingQueue.Number

/-- Terminal attributes of a piece of text. -/
inductive Paint where
  | bold
  | green
  | red
  | boldGreen
  | boldRed
  deriving DecidableEq, Repr

def Paint.code : Paint → String
  | bold => "1"
  | green => "32"
  | red => "31"
  | boldGreen => "1;32"
  | boldRed => "1;31"

/-- Text between the sequence that sets its attributes and the one that resets them. -/
def Paint.apply (paint : Paint) (colours : Bool) (text : String) : String :=
  if colours then "\x1b[" ++ paint.code ++ "m" ++ text ++ "\x1b[0m" else text

namespace Scenario

def title : Scenario → String
  | spsc => "SPSC circular queue"
  | mpmc => "MPMC circular queue"

def name : Scenario → String
  | spsc => "spsc"
  | mpmc => "mpmc"

end Scenario

namespace Report

def checkText (colours ok : Bool) : String :=
  if ok then Paint.green.apply colours "ok" else Paint.boldRed.apply colours "FAILED"

def optionalLine (label : String) (colours : Bool) : Option Bool → List String
  | some ok => [label ++ checkText colours ok]
  | none => []

def statusText (colours passed : Bool) : String :=
  if passed then Paint.boldGreen.apply colours "PASS" else Paint.boldRed.apply colours "FAIL"

/-- The lines of the text, the verdict last. -/
def lines (colours : Bool) (report : Report) : List String :=
  [Paint.bold.apply colours report.scenario.title ++
      "  capacity=" ++ decimal report.capacity.toNat ++
      " producers=" ++ decimal report.producers.toNat ++
      " consumers=" ++ decimal report.consumers.toNat,
    "  items         : " ++ decimal report.itemsSent.toNat ++ " sent / " ++
      decimal report.itemsReceived.toNat ++ " received",
    "  elapsed       : " ++ report.elapsedMs.fixedText 2 ++ " ms (" ++
      report.throughput.fixedText 0 ++ " items/s)"] ++
  optionalLine "  fifo          : " colours report.fifo ++
  optionalLine "  producer order: " colours report.producerOrder ++
  ["  exactly once  : " ++ checkText colours report.exactlyOnce] ++
  (if report.timedOut then ["  " ++ Paint.red.apply colours "deadline expired"] else []) ++
  [statusText colours report.passed]

def pretty (colours : Bool) (report : Report) : String :=
  .join ((report.lines colours).map (· ++ "\n"))

def optionalJson : Option Bool → Json.Value
  | some value => .bool value
  | none => .null

def toJson (report : Report) : Json.Value := .object [
  ("scenario", .string report.scenario.name),
  ("capacity", .whole report.capacity.toNat),
  ("producers", .whole report.producers.toNat),
  ("consumers", .whole report.consumers.toNat),
  ("items_sent", .whole report.itemsSent.toNat),
  ("items_received", .whole report.itemsReceived.toNat),
  ("elapsed_ms", .float report.elapsedMs),
  ("throughput_per_sec", .float report.throughput),
  ("fifo_ok", optionalJson report.fifo),
  ("producer_order_ok", optionalJson report.producerOrder),
  ("exactly_once_ok", .bool report.exactlyOnce),
  ("timed_out", .bool report.timedOut)]

end Report
end RingQueue
