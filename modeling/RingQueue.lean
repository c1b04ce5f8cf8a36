import RingQueue.Queue.Channel
import RingQueue.Queue.Polling
import RingQueue.Main
import RingQueue.Proofs.Queue.Cells
import RingQueue.Proofs.Queue.Fifo
import RingQueue.Proofs.Ring.Distance
import RingQueue.Proofs.Ring.Window
import RingQueue.Proofs.Queue.Mpmc
import RingQueue.Proofs.Queue.MpmcHistory
import RingQueue.Proofs.Queue.Spsc
import RingQueue.Proofs.Queue.ChannelHistory
import RingQueue.Proofs.Queue.Conservation
import RingQueue.Proofs.Queue.CellAccess
import RingQueue.Proofs.Queue.ClaimLoop
import RingQueue.Proofs.Stress.Deliveries
import RingQueue.Proofs.Stress.Judgement
import RingQueue.Proofs.Stress.Reception
import RingQueue.Proofs.Stress.Outcome
import RingQueue.Proofs.Settings.Toml
import RingQueue.Proofs.CommandLine.Request
import RingQueue.Proofs.Program
import RingQueue.Proofs.Settings.Field
import RingQueue.Proofs.Files.Directory
import RingQueue.Proofs.Layer.File
import RingQueue.Proofs.Settings.Document
import RingQueue.Proofs.Layer.Variables
import RingQueue.Proofs.Settings.Save
import RingQueue.Proofs.Queue.Retries
import RingQueue.Proofs.Queue.TornLength
import RingQueue.Proofs.Stress.Exactness
import RingQueue.Proofs.Settings.Listing
import RingQueue.Proofs.Stress.ReportReading
