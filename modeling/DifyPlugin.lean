import DifyPlugin.Interfaces.Model.OpenaiCompatible.ChatRequest
import DifyPlugin.Interfaces.Model.OpenaiCompatible.Tts
import DifyPlugin.Core.Runtime.HttpInvocation
import DifyPlugin.Core.Server.Router
import DifyPlugin.Core.Handlers
import DifyPlugin.Core.PluginRegistration
import DifyPlugin.Core.TriggerFactory
import DifyPlugin.Core.Utils.ClassLoader
import DifyPlugin.Library.Registering
import DifyPlugin.Interfaces.Model.TimingContext
import DifyPlugin.Core.SessionContext
import DifyPlugin.Core.Server.ThreadPool
import DifyPlugin.Interfaces.Model.AiModel
import DifyPlugin.Core.Server.Tcp.Order
import DifyPlugin.Interfaces.Model.OpenaiCompatible.BlockingResponse
import DifyPlugin.Core.Documentation.TableOfContents
import DifyPlugin.Interfaces.Tool.Tool
import DifyPlugin.Interfaces.Agent.Strategy
import DifyPlugin.Core.Initialization
import DifyPlugin.Interfaces.Model.StopTokens
import DifyPlugin.Interfaces.Model.OpenaiCompatible.Rerank
import DifyPlugin.Interfaces.Model.TtsModel
import DifyPlugin.Core.Webm
import DifyPlugin.Core.Server.Tcp.Attempts
import DifyPlugin.Core.Utils.HttpEnviron
import DifyPlugin.Interfaces.Model.FencedContent
import DifyPlugin.Interfaces.Model.OpenaiCompatible.ToolBatching
import DifyPlugin.Interfaces.Model.OpenaiCompatible.ToolMerging
import DifyPlugin.Invocations.Llm
import DifyPlugin.Core.Runtime.LineConverter
import DifyPlugin.Interfaces.Model.NullParameters
import DifyPlugin.Interfaces.Model.ModelParameters
import DifyPlugin.Integration.Runs
import DifyPlugin.Core.Server.Serverless.ResponseWriter
import DifyPlugin.Core.Server.Tcp.Framing
import DifyPlugin.Core.Server.Stdio.RequestReader
import DifyPlugin.Core.Server.Promises
import DifyPlugin.Entities.PromptMessage
import DifyPlugin.Interfaces.Model.OpenaiCompatible.EmbeddingBatches
import DifyPlugin.Core.Utils.HttpParser
import DifyPlugin.Core.Server.IoServer
import DifyPlugin.Core.BlobTransfer
import DifyPlugin.Core.PluginExecutor
import DifyPlugin.Core.Runtime.Isolation
import DifyPlugin.Core.Server.Tcp.Reconnect
import DifyPlugin.Interfaces.Model.CodeBlock
import DifyPlugin.Interfaces.Model.OpenaiCompatible.StreamEvents
import DifyPlugin.Interfaces.Model.OpenaiCompatible.StreamLifecycle
import DifyPlugin.Interfaces.Model.OpenaiCompatible.StreamThinking
import DifyPlugin.Interfaces.Agent.PromptTools
