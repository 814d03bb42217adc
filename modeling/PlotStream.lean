import PlotStream.Main
import PlotStream.CommandLine.Run
import PlotStream.Proofs.ChunkIndependence
import PlotStream.Proofs.Locations
import PlotStream.Reader.Action
import PlotStream.Session
import PlotStream.Proofs.Acceptance
import PlotStream.Proofs.Lockstep
import PlotStream.Proofs.ViablePrefix
import PlotStream.Proofs.TextEnd
import PlotStream.Proofs.Extension
import PlotStream.Proofs.Joining
import PlotStream.Proofs.FailingSource
import PlotStream.Proofs.Codecs
import PlotStream.Proofs.ByteStreams
import PlotStream.Proofs.Reuse
import PlotStream.Proofs.LastCode
import PlotStream.Proofs.Refusals
import PlotStream.Proofs.Replacing
import PlotStream.Proofs.IntegerReading
import PlotStream.Proofs.Preamble
import PlotStream.Proofs.Tiling
import PlotStream.Proofs.Undecodable
import PlotStream.Proofs.LevelChoice
import PlotStream.Proofs.Headway
import PlotStream.Proofs.Caret
import PlotStream.Proofs.LogMirror
import PlotStream.Proofs.SettledSettings
import PlotStream.Proofs.LogHistory
import PlotStream.Proofs.ReaderCalls
import PlotStream.Proofs.LazyReading
import PlotStream.Proofs.TokenMemory
import PlotStream.Proofs.Retries
