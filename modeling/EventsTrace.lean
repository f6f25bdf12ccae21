import EventsTrace.CString
import EventsTrace.Escape
import EventsTrace.Argv
import EventsTrace.Events
import EventsTrace.Printers
import EventsTrace.Json
import EventsTrace.Lines
import EventsTrace.Main
import EventsTrace.Validity
import EventsTrace.Framing
import EventsTrace.Decode
import EventsTrace.Calls
import EventsTrace.Run
import EventsTrace.Signal
