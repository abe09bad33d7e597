import ZephyrHomeHub.Foundation.BinaryFloat
import ZephyrHomeHub.Foundation.CString
import ZephyrHomeHub.Foundation.DecimalNumeral
import ZephyrHomeHub.Foundation.FirstComeRegistry
import ZephyrHomeHub.Foundation.LabelledMachine
import ZephyrHomeHub.Foundation.LossyChannel
import ZephyrHomeHub.Foundation.RingBuffer
import ZephyrHomeHub.Foundation.SingleWorker
import ZephyrHomeHub.Hub.DataModel
import ZephyrHomeHub.Hub.NodeTable
import ZephyrHomeHub.Hub.TemperatureTab
import ZephyrHomeHub.Hub.MainLoop
import ZephyrHomeHub.Hub.NodeTableRefinement
import ZephyrHomeHub.Hub.StaleDetection
import ZephyrHomeHub.Hub.TabVisibility
import ZephyrHomeHub.Hub.CoapServer
import ZephyrHomeHub.Hub.DisplayBounds
import ZephyrHomeHub.Hub.Pipeline
import ZephyrHomeHub.Hub.PipelineFidelity
import ZephyrHomeHub.Hub.Acknowledgement
import ZephyrHomeHub.Node.SensorHandler
import ZephyrHomeHub.Node.CoapClient
import ZephyrHomeHub.Node.SendLoop
import ZephyrHomeHub.Node.ReplyMatching
import ZephyrHomeHub.Node.Sampling
import ZephyrHomeHub.Hub.PostedMessage
import ZephyrHomeHub.Foundation.HexBytes
import ZephyrHomeHub.Hub.ClockedHub
import ZephyrHomeHub.Hub.Timestamps
import ZephyrHomeHub.Hub.BufferBounds
import ZephyrHomeHub.Node.NodeId
import ZephyrHomeHub.Foundation.NumeralText
import ZephyrHomeHub.Hub.LocalsIndependence
import ZephyrHomeHub.Hub.PayloadNumeral
import ZephyrHomeHub.Foundation.KeyValueText
import ZephyrHomeHub.Hub.ReferenceServer
import ZephyrHomeHub.Foundation.CountingSemaphore
import ZephyrHomeHub.Node.WifiConnect
import ZephyrHomeHub.Foundation.ComponentView
import ZephyrHomeHub.Hub.SequentialLog
import ZephyrHomeHub.Hub.Startup
import ZephyrHomeHub.Node.Startup
import ZephyrHomeHub.Node.SamplingSteps
import ZephyrHomeHub.System.HomeNetwork
import ZephyrHomeHub.System.Provenance
import ZephyrHomeHub.System.AtMostOnce
import ZephyrHomeHub.Node.HeardReplies
import ZephyrHomeHub.System.Lockstep
import ZephyrHomeHub.System.Acknowledged
import ZephyrHomeHub.Foundation.RankedProgress
import ZephyrHomeHub.Hub.Draining
import ZephyrHomeHub.Foundation.FairProgress
import ZephyrHomeHub.Hub.FairThreads
import ZephyrHomeHub.Hub.Delivery
import ZephyrHomeHub.System.Answerable
import ZephyrHomeHub.System.HouseholdTable
import ZephyrHomeHub.Foundation.SampledHistory
import ZephyrHomeHub.Node.Freshness
import ZephyrHomeHub.Foundation.TrackedHeap
import ZephyrHomeHub.Node.RequestBuffer
import ZephyrHomeHub.Foundation.RoundingError
import ZephyrHomeHub.Hub.ShownCards
import ZephyrHomeHub.System.ShownTemperature
import ZephyrHomeHub.System.Showable
import ZephyrHomeHub.Foundation.DecimalPlaces
import ZephyrHomeHub.Hub.UptimeClock
import ZephyrHomeHub.Simulator.TestClient
